/-!
# C++ names

The names of arguments come from the kernel compiler and may be any text; in the
generated source they have to be identifiers. The names of kernels and namespaces are
identifiers already, or the kernel is refused.

## Main definitions

* `Cpp.isIdentifier` — letters, digits and underscores, no digit first, no reserved word
* `Cpp.identifier` — the identifier that stands for any name
* `Cpp.segments` — a qualified name cut at its double colons
-/

namespace KernelBridge.Cpp

/-- Words that no identifier may be. -/
def reservedWords : List String := [
  "alignas", "alignof", "and", "asm", "auto", "bool", "break", "case", "catch", "char", "class",
  "const", "constexpr", "continue", "decltype", "default", "delete", "do", "double", "else",
  "enum", "explicit", "extern", "false", "float", "for", "friend", "goto", "if", "inline", "int",
  "long", "mutable", "namespace", "new", "noexcept", "not", "nullptr", "operator", "or",
  "private", "protected", "public", "register", "return", "short", "signed", "sizeof", "static",
  "struct", "switch", "template", "this", "throw", "true", "try", "typedef", "typename", "union",
  "unsigned", "using", "virtual", "void", "volatile", "while", "xor"]

/-- The word may not be an identifier. -/
def isReserved (word : List Char) : Bool := (reservedWords.map String.toList).contains word

/-- An ASCII letter or an underscore. -/
def isFirst (c : Char) : Bool := c.isAlpha || c == '_'

/-- An ASCII letter or digit, or an underscore. -/
def isNext (c : Char) : Bool := c.isAlphanum || c == '_'

/-- The characters form an identifier. -/
def isIdentifierChars : List Char → Bool
  | [] => false
  | c :: rest => isFirst c && rest.all isNext && !isReserved (c :: rest)

/-- The string is an identifier. -/
def isIdentifier (name : String) : Bool := isIdentifierChars name.toList

/-- The character, or an underscore for one that no identifier may hold. -/
def nameChar (c : Char) : Char := if isNext c then c else '_'

/-- Whether a text of identifier characters needs an underscore in front. -/
def needsUnderscore : List Char → Bool
  | [] => true
  | c :: rest => c.isDigit || isReserved (c :: rest)

/-- The identifier that stands for a name: characters that no identifier may hold become
underscores, and one more is put before an empty name, a digit or a reserved word. -/
def identifierChars (name : List Char) : List Char :=
  let mapped := name.map nameChar
  if needsUnderscore mapped then '_' :: mapped else mapped

/-- The identifier that stands for a name. -/
def identifier (name : String) : String := String.ofList (identifierChars name.toList)

/-- The first of the pieces with one more character in front. -/
def extendFirst (c : Char) : List (List Char) → List (List Char)
  | [] => [[c]]
  | piece :: pieces => (c :: piece) :: pieces

/-- What stands between double colons, taken from left to right. -/
def segmentsChars : List Char → List (List Char)
  | [] => [[]]
  | ':' :: ':' :: rest => [] :: segmentsChars rest
  | c :: rest => extendFirst c (segmentsChars rest)

/-- What stands between the double colons of a qualified name. -/
def segments (name : String) : List String :=
  (segmentsChars name.toList).map String.ofList

/-- The namespaces of a qualified name, from the outermost on, and its last segment. -/
structure QualifiedName where
  namespaces : List String
  simple : String
  deriving DecidableEq, Repr

/-- A qualified name whose segments are identifiers, or its first segment that is none. -/
def QualifiedName.parse (name : String) : Except String QualifiedName :=
  let parts := segments name
  match parts.find? fun part => !isIdentifier part with
  | some bad => .error bad
  | none => .ok ⟨parts.dropLast, parts.getLast?.getD ""⟩

/-- The qualified name as it is written. -/
def QualifiedName.text (name : QualifiedName) : String :=
  "::".intercalate (name.namespaces ++ [name.simple])

theorem segmentsChars_ne_nil (text : List Char) : segmentsChars text ≠ [] := by
  fun_induction segmentsChars text with
  | case1 => simp
  | case2 => simp
  | case3 c rest _ ih => cases h : segmentsChars rest <;> simp [extendFirst]

end KernelBridge.Cpp
