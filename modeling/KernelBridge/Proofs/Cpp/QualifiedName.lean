import KernelBridge.Proofs.Cpp.Identifier
import KernelBridge.Text.Cut

/-!
# Qualified names

A kernel's qualified name is cut at its double colons into namespaces and a simple name, and
joining them again gives the name back. As identifiers hold no colon, a list of them is found
again in its joined text.

## Main definitions

* `Cpp.joined` — names with double colons between them
* `Cpp.QualifiedName.path` — the namespaces and the simple name in one list

## Main results

* `Cpp.QualifiedName.parse_eq_ok_iff` — the qualified names that are taken apart
* `Cpp.QualifiedName.text_of_parse` — they are the joined text of their parts
* `Cpp.joined_injective_of_isIdentifier`, `Cpp.joined_colons_prefix_iff` — lists of identifiers
  compared by their joined texts
-/

namespace KernelBridge.Cpp

/-! ### Characters of identifiers -/

section Characters

variable {name : String} {c : Char}

theorem isNext_of_mem (h : isIdentifier name = true) (hc : c ∈ name.toList) : isNext c = true :=
  List.all_eq_true.mp (all_isNext_of_isIdentifierChars h) c hc

theorem not_mem_of_isIdentifier (h : isIdentifier name = true) (hc : isNext c = false) :
    c ∉ name.toList := by
  intro hmem
  rw [isNext_of_mem h hmem] at hc
  cases hc

theorem ne_empty_of_isIdentifier (h : isIdentifier name = true) : name ≠ "" := by
  rintro rfl
  revert h
  decide

theorem isReserved_eq_false_of_getLast? {word : List Char} (h : word.getLast? = some '_') :
    isReserved word = false := by
  rw [isReserved, List.contains_eq_mem, decide_eq_false_iff_not]
  exact fun hmem => (ends_ne_underscore word hmem).2 h

/-- A suffix with an underscore at its end makes no reserved word. -/
theorem isIdentifier_append (h : isIdentifier name = true) {suffix : String}
    (hsuffix : suffix.toList.all isNext = true) (hlast : suffix.toList.getLast? = some '_') :
    isIdentifier (name ++ suffix) = true := by
  have hsome : suffix.toList ≠ [] := by
    intro hnil
    simp [hnil] at hlast
  rw [isIdentifier] at h ⊢
  cases hchars : name.toList with
  | nil => simp [hchars, isIdentifierChars] at h
  | cons first rest =>
    rw [hchars] at h
    simp only [isIdentifierChars, Bool.and_eq_true] at h
    have hreserved : isReserved (first :: (rest ++ suffix.toList)) = false := by
      refine isReserved_eq_false_of_getLast? ?_
      rw [← List.cons_append, List.getLast?_append_of_ne_nil _ hsome, hlast]
    rw [String.toList_append, hchars, List.cons_append, isIdentifierChars, h.1.1,
      List.all_append, h.1.2, hsuffix, hreserved]
    rfl

end Characters

/-! ### Names joined by double colons -/

/-- The names with double colons between them. -/
def joined (parts : List String) : String := "::".intercalate parts

theorem extendFirst_eq_modifyHead {c : Char} {pieces : List (List Char)} (h : pieces ≠ []) :
    extendFirst c pieces = pieces.modifyHead (c :: ·) := by
  cases pieces with
  | nil => exact absurd rfl h
  | cons piece rest => rfl

theorem segmentsChars_eq_cut (text : List Char) : segmentsChars text = Text.cut ':' ':' text := by
  fun_induction segmentsChars text with
  | case1 => rfl
  | case2 rest ih => rw [Text.cut_pair, ih]
  | case3 c rest hpair ih =>
    rw [ih, extendFirst_eq_modifyHead (Text.cut_ne_nil _ _ _)]
    cases rest with
    | nil => rfl
    | cons d rest =>
      have hnone : ¬ (c = ':' ∧ d = ':') := by
        rintro ⟨rfl, rfl⟩
        exact hpair rest rfl rfl
      simp [Text.cut, hnone]

theorem joined_segments (text : String) : joined (segments text) = text := by
  apply String.toList_injective
  rw [joined, segments, segmentsChars_eq_cut, String.toList_intercalate, List.map_map]
  simpa [Function.comp_def] using Text.intercalate_cut ':' ':' text.toList

section Joined

variable {parts others : List String}

theorem colon_not_mem (h : ∀ part ∈ parts, isIdentifier part = true) :
    ∀ piece ∈ parts.map String.toList, ':' ∉ piece := by
  intro piece hpiece
  obtain ⟨part, hpart, rfl⟩ := List.mem_map.mp hpiece
  exact not_mem_of_isIdentifier (h part hpart) (by decide)

theorem segments_joined (h : ∀ part ∈ parts, isIdentifier part = true) (hsome : parts ≠ []) :
    segments (joined parts) = parts := by
  rw [segments, segmentsChars_eq_cut, joined, String.toList_intercalate,
    show "::".toList = [':', ':'] from rfl, Text.cut_intercalate (colon_not_mem h) (by simpa)]
  simp [Function.comp_def]

/-- Lists of identifiers are equal if their joined texts are. -/
theorem joined_injective_of_isIdentifier (h : ∀ part ∈ parts, isIdentifier part = true)
    (h' : ∀ part ∈ others, isIdentifier part = true) (hsome : parts ≠ []) (hsome' : others ≠ [])
    (heq : joined parts = joined others) : parts = others := by
  rw [← segments_joined h hsome, heq, segments_joined h' hsome']

/-- A joined text with another double colon begins a joined text iff the one list of
identifiers begins the other one and is shorter. -/
theorem joined_colons_prefix_iff (h : ∀ part ∈ parts, isIdentifier part = true)
    (h' : ∀ part ∈ others, isIdentifier part = true) (hsome : parts ≠ []) :
    (joined parts ++ "::").toList <+: (joined others).toList ↔
      parts <+: others ∧ parts.length < others.length := by
  constructor
  · -- Cut at its double colons, the longer text begins with the parts of the shorter one.
    rintro ⟨rest, hrest⟩
    rw [String.toList_append, List.append_assoc] at hrest
    have hcut : segmentsChars (joined others).toList =
        parts.map String.toList ++ Text.cut ':' ':' rest := by
      rw [← hrest, segmentsChars_eq_cut, joined, String.toList_intercalate]
      exact Text.cut_intercalate_append (colon_not_mem h) (by simpa) rest
    have hnone : others ≠ [] := by
      rintro rfl
      simp [joined] at hrest
    have hparts : others = parts ++ (Text.cut ':' ':' rest).map String.ofList := by
      rw [← segments_joined h' hnone, segments, hcut, List.map_append]
      simp [Function.comp_def]
    have hmore := List.length_pos_of_ne_nil (Text.cut_ne_nil ':' ':' rest)
    rw [hparts]
    exact ⟨List.prefix_append _ _, by simpa using hmore⟩
  · rintro ⟨⟨rest, rfl⟩, hlength⟩
    have hrest : rest ≠ [] := by
      rintro rfl
      simp at hlength
    have hsplit : (joined (parts ++ rest)).toList =
        (joined parts ++ "::").toList ++ (joined rest).toList := by
      rw [joined, String.intercalate_append_of_ne_nil hsome hrest]
      exact String.toList_append
    rw [hsplit]
    exact List.prefix_append _ _

end Joined

/-! ### Parsing -/

namespace QualifiedName

/-- The namespaces from the outermost on, and the simple name. -/
def path (name : QualifiedName) : List String := name.namespaces ++ [name.simple]

variable {text : String} {name : QualifiedName}

/-- A qualified name is taken apart if all of its segments are identifiers. -/
theorem parse_eq_ok_iff :
    parse text = .ok name ↔
      segments text = name.path ∧ ∀ part ∈ name.path, isIdentifier part = true := by
  have hsome : segments text ≠ [] := by simp [segments, segmentsChars_ne_nil]
  have hlast : (segments text).dropLast ++ [(segments text).getLast?.getD ""] = segments text := by
    rw [List.getLast?_eq_some_getLast hsome]
    exact List.dropLast_append_getLast hsome
  rw [parse]
  cases hbad : (segments text).find? fun part => !isIdentifier part with
  | some bad =>
    refine ⟨fun h => (by cases h), fun ⟨hsegments, hall⟩ => ?_⟩
    have hmem : bad ∈ name.path := hsegments ▸ List.mem_of_find?_eq_some hbad
    have hnone := List.find?_some hbad
    simp [hall bad hmem] at hnone
  | none =>
    have hall : ∀ part ∈ segments text, isIdentifier part = true := by
      simpa using List.find?_eq_none.mp hbad
    constructor
    · intro h
      obtain rfl := Except.ok.inj h
      rw [path, hlast]
      exact ⟨rfl, hall⟩
    · rintro ⟨hsegments, -⟩
      simp [hsegments, path]

theorem exists_parse_iff :
    (∃ name, parse text = .ok name) ↔ ∀ part ∈ segments text, isIdentifier part = true := by
  constructor
  · rintro ⟨name, h⟩
    obtain ⟨hsegments, hall⟩ := parse_eq_ok_iff.mp h
    rwa [hsegments]
  · intro hall
    have hnone : ((segments text).find? fun part => !isIdentifier part) = none := by
      simpa using hall
    rw [parse, hnone]
    exact ⟨_, rfl⟩

theorem isIdentifier_of_parse (h : parse text = .ok name) :
    ∀ part ∈ name.path, isIdentifier part = true :=
  (parse_eq_ok_iff.mp h).2

theorem text_eq_joined (name : QualifiedName) : name.text = joined name.path := rfl

/-- What a qualified name is taken apart into is written as that name. -/
theorem text_of_parse (h : parse text = .ok name) : name.text = text := by
  rw [text_eq_joined, ← (parse_eq_ok_iff.mp h).1, joined_segments]

end QualifiedName

end KernelBridge.Cpp
