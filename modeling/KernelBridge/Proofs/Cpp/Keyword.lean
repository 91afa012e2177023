import KernelBridge.Proofs.Cpp.QualifiedName

/-!
# Words of the language

C++ keeps its keywords, and the words that stand for operators, from being names. The check of
identifiers knows most of these words. A name that passes the check is legal unless it is one of
the others, and a suffix that ends none of them makes it legal in any case.

## Main definitions

* `Cpp.keywords`, `Cpp.operatorWords` — the words of C++17 that are no names
* `Cpp.IsLegal` — a name that C++17 accepts
* `Cpp.overlookedWords` — the words that the check does not know

## Main results

* `Cpp.isLegal_iff_of_isIdentifier` — the legal names among those that pass the check
* `Cpp.isLegal_append` — names with a suffix
-/

namespace KernelBridge.Cpp

/-- The keywords of C++17. -/
def keywords : List String := [
  "alignas", "alignof", "asm", "auto", "bool", "break", "case", "catch", "char", "char16_t",
  "char32_t", "class", "const", "constexpr", "const_cast", "continue", "decltype", "default",
  "delete", "do", "double", "dynamic_cast", "else", "enum", "explicit", "export", "extern",
  "false", "float", "for", "friend", "goto", "if", "inline", "int", "long", "mutable",
  "namespace", "new", "noexcept", "nullptr", "operator", "private", "protected", "public",
  "register", "reinterpret_cast", "return", "short", "signed", "sizeof", "static",
  "static_assert", "static_cast", "struct", "switch", "template", "this", "thread_local",
  "throw", "true", "try", "typedef", "typeid", "typename", "union", "unsigned", "using",
  "virtual", "void", "volatile", "wchar_t", "while"]

/-- The words of C++17 that stand for operators. -/
def operatorWords : List String := [
  "and", "and_eq", "bitand", "bitor", "compl", "not", "not_eq", "or", "or_eq", "xor", "xor_eq"]

/-- The name has the form of an identifier: a letter or an underscore, and after it letters,
digits and underscores. -/
def HasForm (name : String) : Prop :=
  ∃ first rest, name.toList = first :: rest ∧ isFirst first = true ∧ ∀ c ∈ rest, isNext c = true

/-- C++17 accepts the name. -/
structure IsLegal (name : String) : Prop where
  form : HasForm name
  notKeyword : name ∉ keywords
  notOperator : name ∉ operatorWords

/-- The words that the check of identifiers does not know. -/
def overlookedWords : List String :=
  (keywords ++ operatorWords).filter fun word => !reservedWords.contains word

theorem overlookedWords_eq : overlookedWords = [
    "char16_t", "char32_t", "const_cast", "dynamic_cast", "export", "reinterpret_cast",
    "static_assert", "static_cast", "thread_local", "typeid", "wchar_t", "and_eq", "bitand",
    "bitor", "compl", "not_eq", "or_eq", "xor_eq"] := by
  decide +kernel

variable {name : String}

theorem isReserved_iff : isReserved name.toList = true ↔ name ∈ reservedWords := by
  rw [isReserved, List.contains_iff_mem,
    List.mem_map_of_injective fun _ _ h => String.toList_injective h]

theorem isIdentifier_iff : isIdentifier name = true ↔ HasForm name ∧ name ∉ reservedWords := by
  rw [isIdentifier, HasForm, ← isReserved_iff]
  cases name.toList with
  | nil => simp [isIdentifierChars]
  | cons first rest => simp [isIdentifierChars, and_assoc]

/-- A name that passes the check is legal unless it is a word that the check does not know. -/
theorem isLegal_iff_of_isIdentifier (h : isIdentifier name = true) :
    IsLegal name ↔ name ∉ overlookedWords := by
  obtain ⟨hform, hreserved⟩ := isIdentifier_iff.mp h
  have hwords : name ∈ overlookedWords ↔ name ∈ keywords ∨ name ∈ operatorWords := by
    simp [overlookedWords, hreserved]
  rw [hwords, not_or]
  exact ⟨fun legal => ⟨legal.notKeyword, legal.notOperator⟩, fun ⟨hkeyword, hoperator⟩ =>
    ⟨hform, hkeyword, hoperator⟩⟩

/-- A name that passes the check stays legal with a suffix that ends no word of the language. -/
theorem isLegal_append (h : isIdentifier name = true) {suffix : String}
    (hsuffix : suffix.toList.all isNext = true)
    (hwords : ∀ word ∈ keywords ++ operatorWords, ¬ suffix.toList <:+ word.toList) :
    IsLegal (name ++ suffix) := by
  obtain ⟨⟨first, rest, hchars, hfirst, hrest⟩, -⟩ := isIdentifier_iff.mp h
  have hword : ∀ word ∈ keywords ++ operatorWords, name ++ suffix ≠ word := by
    rintro word hword rfl
    refine hwords _ hword ?_
    rw [String.toList_append]
    exact List.suffix_append _ _
  refine ⟨⟨first, rest ++ suffix.toList, ?_, hfirst, ?_⟩, ?_, ?_⟩
  · rw [String.toList_append, hchars, List.cons_append]
  · exact List.forall_mem_append.mpr ⟨hrest, List.all_eq_true.mp hsuffix⟩
  · exact fun hmem => hword _ (List.mem_append_left _ hmem) rfl
  · exact fun hmem => hword _ (List.mem_append_right _ hmem) rfl

end KernelBridge.Cpp
