import Mathlib.Data.List.Basic
import KernelBridge.Cpp.Name

/-!
# Identifiers of arbitrary names

Whatever an argument is called, the name that stands for it in the source is an identifier.
So it is no reserved word and holds no colon, and it cannot be mistaken for a qualified name.
A name that is an identifier already stands for itself.

## Main results

* `isIdentifier_identifier` — the name that stands for any text is an identifier
* `identifier_ne_of_not_isIdentifier` — it is none of the texts that are no identifiers
* `identifierChars_eq` — an underscore is put in front only where the characters need it
* `identifier_retracts` — the names that stand for themselves are the identifiers
-/

namespace KernelBridge.Cpp

/-! ### Characters of identifiers -/

section Characters

variable {c : Char} {name : List Char}

theorem isNext_nameChar (c : Char) : isNext (nameChar c) = true := by
  unfold nameChar
  split
  · assumption
  · rfl

theorem all_isNext_map_nameChar (name : List Char) : (name.map nameChar).all isNext = true := by
  simp [isNext_nameChar]

theorem isNext_of_isFirst (h : isFirst c = true) : isNext c = true := by
  simp only [isFirst, Bool.or_eq_true] at h
  simp only [isNext, Char.isAlphanum, Bool.or_eq_true]
  exact h.imp .inl id

theorem isFirst_eq_false_of_isDigit (h : c.isDigit = true) : isFirst c = false := by
  -- The digits come before all letters and the underscore.
  have hle : c.toNat ≤ 57 := by
    simp only [Char.isDigit, Bool.and_eq_true, decide_eq_true_eq] at h
    exact UInt32.le_iff_toNat_le.mp h.2
  have hunderscore : c ≠ '_' := by
    rintro rfl
    exact absurd hle (by decide)
  have halpha : c.isAlpha = false := by
    unfold Char.isAlpha Char.isUpper Char.isLower
    simp [UInt32.le_iff_toNat_le]
    omega
  simp [isFirst, halpha, hunderscore]

/-- Of the characters of identifiers, the digits alone may not come first. -/
theorem isFirst_eq_not_isDigit (hnext : isNext c = true) : isFirst c = !c.isDigit := by
  cases hdigit : c.isDigit with
  | true => exact isFirst_eq_false_of_isDigit hdigit
  | false => simpa [isNext, isFirst, Char.isAlphanum, hdigit] using hnext

theorem all_isNext_of_isIdentifierChars (h : isIdentifierChars name = true) :
    name.all isNext = true := by
  cases name with
  | nil => rfl
  | cons c rest =>
    simp only [isIdentifierChars, Bool.and_eq_true] at h
    rw [List.all_cons, isNext_of_isFirst h.1.1, h.1.2, Bool.and_true]

theorem map_nameChar_of_all_isNext (h : name.all isNext = true) : name.map nameChar = name := by
  have hkept : ∀ c ∈ name, nameChar c = c := fun c hc =>
    if_pos (List.all_eq_true.mp h c hc)
  rw [List.map_congr_left hkept, List.map_id']

end Characters

/-! ### Where an underscore is needed -/

/-- No reserved word begins or ends with an underscore. -/
theorem ends_ne_underscore : ∀ word ∈ reservedWords.map String.toList,
    word.head? ≠ some '_' ∧ word.getLast? ≠ some '_' := by
  decide +kernel

theorem isReserved_underscore (rest : List Char) : isReserved ('_' :: rest) = false := by
  rw [isReserved, List.contains_eq_mem, decide_eq_false_iff_not]
  exact fun hmem => (ends_ne_underscore _ hmem).1 rfl

section Mapped

variable {mapped : List Char} (h : mapped.all isNext = true)

include h

/-- Characters of identifiers need an underscore in front exactly if they form none. -/
theorem needsUnderscore_eq_not_isIdentifierChars :
    needsUnderscore mapped = !isIdentifierChars mapped := by
  cases mapped with
  | nil => rfl
  | cons c rest =>
    obtain ⟨hc, hrest⟩ : isNext c = true ∧ rest.all isNext = true := by
      rwa [List.all_cons, Bool.and_eq_true] at h
    rw [needsUnderscore, isIdentifierChars, isFirst_eq_not_isDigit hc, hrest]
    simp

theorem isIdentifierChars_underscore_cons : isIdentifierChars ('_' :: mapped) = true := by
  rw [isIdentifierChars, h, isReserved_underscore]
  rfl

end Mapped

/-- The characters stand for a name if they form an identifier, and otherwise an underscore is
put before them. -/
theorem identifierChars_eq (name : List Char) :
    identifierChars name =
      if isIdentifierChars (name.map nameChar) then name.map nameChar
      else '_' :: name.map nameChar := by
  have hneeds := needsUnderscore_eq_not_isIdentifierChars (all_isNext_map_nameChar name)
  rw [identifierChars, hneeds]
  cases isIdentifierChars (name.map nameChar) <;> rfl

theorem isIdentifierChars_identifierChars (name : List Char) :
    isIdentifierChars (identifierChars name) = true := by
  rw [identifierChars_eq]
  split
  · assumption
  · exact isIdentifierChars_underscore_cons (all_isNext_map_nameChar name)

theorem identifierChars_of_isIdentifierChars {name : List Char}
    (h : isIdentifierChars name = true) : identifierChars name = name := by
  have hmap : name.map nameChar = name :=
    map_nameChar_of_all_isNext (all_isNext_of_isIdentifierChars h)
  rw [identifierChars_eq, hmap, if_pos h]

/-! ### Names -/

/-- The name that stands for any text is an identifier. -/
theorem isIdentifier_identifier (name : String) : isIdentifier (identifier name) = true := by
  rw [isIdentifier, identifier, String.toList_ofList]
  exact isIdentifierChars_identifierChars name.toList

theorem identifier_ne_of_not_isIdentifier {name other : String}
    (h : isIdentifier other = false) : identifier name ≠ other := by
  rintro rfl
  rw [isIdentifier_identifier] at h
  cases h

theorem identifier_of_isIdentifier {name : String} (h : isIdentifier name = true) :
    identifier name = name := by
  rw [identifier, identifierChars_of_isIdentifierChars h, String.ofList_toList]

/-- **Names that stand for themselves.** Every name is stood for by an identifier, and the
identifiers are exactly the names that stand for themselves. So nothing changes when the name
that stands for another one is replaced again. -/
theorem identifier_retracts (name : String) :
    isIdentifier (identifier name) = true ∧
    (identifier name = name ↔ isIdentifier name = true) ∧
    identifier (identifier name) = identifier name := by
  refine ⟨isIdentifier_identifier name, ⟨?_, identifier_of_isIdentifier⟩, ?_⟩
  · intro hself
    rw [← hself]
    exact isIdentifier_identifier name
  · exact identifier_of_isIdentifier (isIdentifier_identifier name)

end KernelBridge.Cpp
