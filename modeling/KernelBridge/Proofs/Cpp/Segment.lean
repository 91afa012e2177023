import KernelBridge.Proofs.Cpp.QualifiedName
import KernelBridge.Proofs.FirstFault
import KernelBridge.Signature.Validation

/-!
# What a qualified name is taken apart into

A text is cut from the left: a segment ends where two colons stand for the first time, so of
three colons in a row the last one belongs to the next segment. Taking a name apart and joining
it are inverse to each other between the accepted names and the lists of identifiers. Every other
name is refused for the first of its segments that is no identifier.

## Main definitions

* `Text.IsCut` — the pieces of a text, each up to the first pair that follows
* `Cpp.AreSegments` — the segments of a qualified name

## Main results

* `Text.isCut_iff` — a text has one list of pieces
* `Cpp.QualifiedName.parse_eq_error_iff` — the names that are refused
* `qualifiedName_inverse_to_joining` — all names together
-/

namespace KernelBridge

/-! ### Where a text is cut -/

namespace Text

/-- The text is made up of the pieces with pairs of the two characters between them, and every
piece ends where the pair stands for the first time. -/
inductive IsCut (first second : Char) : List (List Char) → List Char → Prop where
  /-- The pair stands nowhere in the last piece. -/
  | last {text : List Char} (alone : ¬ [first, second] <:+: text) : IsCut first second [text] text
  /-- The first character of the pair that ends a piece does not begin it earlier. -/
  | next {piece rest : List Char} {pieces : List (List Char)}
      (ends : ¬ [first, second] <:+: piece ++ [first]) (others : IsCut first second pieces rest) :
      IsCut first second (piece :: pieces) (piece ++ first :: second :: rest)

variable {first second c d : Char} {piece rest text : List Char} {pieces : List (List Char)}

/-- The pair stands in a text at its head or behind its first character. -/
theorem pair_infix_cons_iff :
    [first, second] <:+: c :: d :: rest ↔
      (c = first ∧ d = second) ∨ [first, second] <:+: d :: rest := by
  rw [List.infix_cons_iff]
  simp [List.cons_prefix_cons, eq_comm]

theorem not_pair_infix_singleton : ¬ [first, second] <:+: [c] := by
  intro h
  have hlength := h.length_le
  simp at hlength

theorem cut_of_no_pair (h : ¬ [first, second] <:+: text) : cut first second text = [text] := by
  fun_induction cut first second text with
  | case1 => rfl
  | case2 => rfl
  | case3 c d rest hpair => exact absurd (pair_infix_cons_iff.mpr (.inl hpair)) h
  | case4 c d rest hpair ih =>
    rw [ih fun hrest => h (pair_infix_cons_iff.mpr (.inr hrest)), List.modifyHead_cons]

/-- The first piece ends where the pair stands for the first time. -/
theorem cut_append_of_no_pair (h : ¬ [first, second] <:+: piece ++ [first]) :
    cut first second (piece ++ first :: second :: rest) = piece :: cut first second rest := by
  induction piece with
  | nil => exact cut_pair first second rest
  | cons c piece ih =>
    obtain ⟨d, more, hmore⟩ : ∃ d more, piece ++ [first] = d :: more := by
      cases piece with
      | nil => exact ⟨first, [], rfl⟩
      | cons d piece => exact ⟨d, piece ++ [first], rfl⟩
    rw [List.cons_append, hmore, pair_infix_cons_iff, not_or, ← hmore] at h
    obtain ⟨hpair, hrest⟩ := h
    have htext : piece ++ first :: second :: rest = d :: (more ++ second :: rest) := by
      rw [← List.cons_append, ← hmore, List.append_assoc, List.singleton_append]
    have hstep : cut first second (c :: d :: (more ++ second :: rest)) =
        (cut first second (d :: (more ++ second :: rest))).modifyHead (c :: ·) := by
      rw [cut, if_neg hpair]
    rw [List.cons_append, htext, hstep, ← htext, ih hrest, List.modifyHead_cons]

/-- One more character that begins no pair belongs to the first piece. -/
theorem IsCut.modifyHead (h : IsCut first second pieces (d :: rest))
    (hpair : ¬ (c = first ∧ d = second)) :
    IsCut first second (pieces.modifyHead (c :: ·)) (c :: d :: rest) := by
  generalize htext : d :: rest = text at h
  cases h with
  | last alone =>
    subst htext
    refine .last ?_
    rw [pair_infix_cons_iff]
    exact not_or.mpr ⟨hpair, alone⟩
  | @next piece after pieces ends others =>
    refine .next ?_ others
    cases piece with
    | nil =>
      obtain ⟨rfl, -⟩ := List.cons.inj htext
      exact (pair_infix_cons_iff.trans (or_iff_left not_pair_infix_singleton)).not.mpr hpair
    | cons e piece =>
      obtain ⟨rfl, -⟩ := List.cons.inj htext
      exact pair_infix_cons_iff.not.mpr (not_or.mpr ⟨hpair, ends⟩)

theorem isCut_cut (first second : Char) (text : List Char) :
    IsCut first second (cut first second text) text := by
  fun_induction cut first second text with
  | case1 => exact .last (by simp)
  | case2 c => exact .last not_pair_infix_singleton
  | case3 c d rest hpair ih =>
    obtain ⟨rfl, rfl⟩ := hpair
    have hempty : ¬ [c, d] <:+: [] ++ [c] := not_pair_infix_singleton
    exact .next hempty ih
  | case4 c d rest hpair ih => exact ih.modifyHead hpair

/-- A text has one list of pieces. -/
theorem isCut_iff : IsCut first second pieces text ↔ cut first second text = pieces := by
  constructor
  · intro h
    induction h with
    | last alone => exact cut_of_no_pair alone
    | next ends _ ih => rw [cut_append_of_no_pair ends, ih]
  · rintro rfl
    exact isCut_cut first second text

end Text

/-! ### The segments of a name -/

namespace Cpp

/-- The parts are the segments of the text: the text is cut at its double colons from the left
on. -/
def AreSegments (parts : List String) (text : String) : Prop :=
  Text.IsCut ':' ':' (parts.map String.toList) text.toList

variable {parts : List String} {text : String}

theorem areSegments_iff : AreSegments parts text ↔ segments text = parts := by
  rw [AreSegments, Text.isCut_iff, ← segmentsChars_eq_cut, segments]
  constructor
  · intro h
    rw [h]
    simp [Function.comp_def]
  · rintro rfl
    simp [Function.comp_def]

namespace QualifiedName

variable {name other : QualifiedName} {bad : String}

theorem path_ne_nil (name : QualifiedName) : name.path ≠ [] := by simp [path]

theorem path_injective (h : name.path = other.path) : name = other := by
  obtain ⟨namespaces, simple⟩ := name
  obtain ⟨namespaces', simple'⟩ := other
  obtain ⟨rfl, hlast⟩ := List.append_inj' h rfl
  obtain ⟨rfl, -⟩ := List.cons.inj hlast
  rfl

/-- A name is taken apart into namespaces and a simple name iff these are identifiers and it is
their joined text. -/
theorem parse_eq_ok_iff_text :
    parse text = .ok name ↔
      text = name.text ∧ ∀ part ∈ name.path, isIdentifier part = true := by
  rw [parse_eq_ok_iff, text_eq_joined]
  constructor
  · rintro ⟨hsegments, hall⟩
    exact ⟨by rw [← hsegments, joined_segments], hall⟩
  · rintro ⟨rfl, hall⟩
    exact ⟨segments_joined hall name.path_ne_nil, hall⟩

/-- A name is refused for its first segment that is no identifier. -/
theorem parse_eq_error_iff :
    parse text = .error bad ↔
      ∃ before after, AreSegments (before ++ bad :: after) text ∧
        (∀ part ∈ before, isIdentifier part = true) ∧ isIdentifier bad = false := by
  have hfound : parse text = .error bad ↔
      (segments text).find? (fun part => !isIdentifier part) = some bad := by
    rw [parse]
    cases (segments text).find? fun part => !isIdentifier part <;> simp
  rw [hfound, List.find?_eq_some_iff_append]
  simp only [areSegments_iff, Bool.not_eq_true', Bool.not_not]
  constructor
  · rintro ⟨hbad, before, after, hsplit, hbefore⟩
    exact ⟨before, after, hsplit, by simpa using hbefore, hbad⟩
  · rintro ⟨before, after, hsplit, hbefore, hbad⟩
    exact ⟨hbad, before, after, hsplit, by simpa using hbefore⟩

/-- Names with identifiers as their parts are equal if they are written alike. -/
theorem text_injective (hname : ∀ part ∈ name.path, isIdentifier part = true)
    (hother : ∀ part ∈ other.path, isIdentifier part = true) (h : name.text = other.text) :
    name = other :=
  path_injective (joined_injective_of_isIdentifier hname hother name.path_ne_nil
    other.path_ne_nil h)

end QualifiedName

end Cpp

open Cpp

/-- **Qualified names.** A text is taken apart into namespaces and a simple name iff it is these
with double colons between them and they are identifiers. No text can be taken apart in two ways,
and no two texts give the same parts. Every other text is refused, with an error that names the
first segment from the left that is no identifier. -/
theorem qualifiedName_inverse_to_joining :
    (∀ text namespaces simple, qualifiedName text = .ok ⟨namespaces, simple⟩ ↔
      text = joined (namespaces ++ [simple]) ∧
        ∀ part ∈ namespaces ++ [simple], isIdentifier part = true) ∧
    (∀ namespaces simple, (∀ part ∈ namespaces ++ [simple], isIdentifier part = true) →
      qualifiedName (joined (namespaces ++ [simple])) = .ok ⟨namespaces, simple⟩ ∧
        ∀ namespaces' simple', (∀ part ∈ namespaces' ++ [simple'], isIdentifier part = true) →
          joined (namespaces' ++ [simple']) = joined (namespaces ++ [simple]) →
            namespaces' = namespaces ∧ simple' = simple) ∧
    (∀ text text' name, qualifiedName text = .ok name → qualifiedName text' = .ok name →
      text = text') ∧
    ∀ text error, qualifiedName text = .error error ↔
      ∃ before bad after, AreSegments (before ++ bad :: after) text ∧
        (∀ part ∈ before, isIdentifier part = true) ∧ isIdentifier bad = false ∧
          error = .signature text (.notIdentifier bad) := by
  have haccepted (text : String) (name : QualifiedName) : qualifiedName text = .ok name ↔
      text = name.text ∧ ∀ part ∈ name.path, isIdentifier part = true := by
    rw [qualifiedName, FirstFault.mapError_eq_ok_iff, QualifiedName.parse_eq_ok_iff_text]
  refine ⟨fun text namespaces simple => haccepted text ⟨namespaces, simple⟩, ?_, ?_, ?_⟩
  · intro namespaces simple hall
    refine ⟨(haccepted _ ⟨namespaces, simple⟩).mpr ⟨rfl, hall⟩, ?_⟩
    intro namespaces' simple' hall' heq
    have hname : QualifiedName.mk namespaces' simple' = ⟨namespaces, simple⟩ :=
      QualifiedName.text_injective hall' hall heq
    exact QualifiedName.mk.inj hname
  · intro text text' name h h'
    rw [((haccepted text name).mp h).1, ((haccepted text' name).mp h').1]
  · intro text error
    have hrefused : qualifiedName text = .error error ↔
        ∃ bad, QualifiedName.parse text = .error bad ∧
          error = .signature text (.notIdentifier bad) := by
      rw [qualifiedName]
      cases QualifiedName.parse text <;> simp [Except.mapError, eq_comm]
    rw [hrefused]
    simp only [QualifiedName.parse_eq_error_iff]
    constructor
    · rintro ⟨bad, ⟨before, after, hsegments, hbefore, hbad⟩, rfl⟩
      exact ⟨before, bad, after, hsegments, hbefore, hbad, rfl⟩
    · rintro ⟨before, bad, after, hsegments, hbefore, hbad, rfl⟩
      exact ⟨bad, ⟨before, after, hsegments, hbefore, hbad⟩, rfl⟩

/-- A name in two namespaces, and one with three colons in a row, of which the last one is taken
for the beginning of a segment. -/
theorem qualifiedName_inverse_of_nested :
    (qualifiedName "ops::grad::vadd" = .ok ⟨["ops", "grad"], "vadd"⟩ ∧
      ∀ text, qualifiedName text = .ok ⟨["ops", "grad"], "vadd"⟩ → text = "ops::grad::vadd") ∧
    qualifiedName "ops:::class::f" =
      .error (.signature "ops:::class::f" (.notIdentifier ":class")) := by
  obtain ⟨-, hjoined, hone, hrefused⟩ := qualifiedName_inverse_to_joining
  have haccepted : qualifiedName "ops::grad::vadd" = .ok ⟨["ops", "grad"], "vadd"⟩ :=
    (hjoined ["ops", "grad"] "vadd" (by decide)).1
  refine ⟨⟨haccepted, fun text htext => hone _ _ _ htext haccepted⟩, ?_⟩
  refine (hrefused _ _).mpr ⟨["ops"], ":class", ["f"], ?_, by decide, by decide, rfl⟩
  exact areSegments_iff.mpr (by decide)

end KernelBridge
