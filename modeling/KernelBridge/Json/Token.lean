/-!
# JSON tokens

A JSON text is cut into tokens from left to right. Blanks between tokens are dropped, so
texts that differ in them alone have the same tokens. A word, numeral or string that does
not follow the grammar becomes a broken token, which remembers what is wrong with it;
nothing after it is looked at.

## Main definitions

* `Json.Fault` — a text that breaks the grammar, or ends inside it
* `Json.Numeral`, `Json.StringToken` — the lexemes of numbers and strings
* `Json.Token` — the tokens
* `Json.tokens` — the tokens of a text
-/

namespace KernelBridge.Json

/-- What is wrong where a text stops being JSON: a character that the grammar does not
allow, or the end of the text. -/
inductive Fault where
  | malformed
  | truncated
  deriving DecidableEq, Repr

/-- The characters that JSON allows between tokens. -/
def isSpace (c : Char) : Bool := c == ' ' || c == '\n' || c == '\t' || c == '\r'

/-! ### Numerals -/

/-- A numeral as it is written. The digits of the fraction are empty iff there is no
point, and an exponent has a sign and digits. -/
structure Numeral where
  negative : Bool
  whole : List Char
  fraction : List Char
  exponent : Option (Bool × List Char)
  deriving DecidableEq, Repr

/-- The fault of a numeral that misses a digit, by what stands in the digit's place. -/
def digitFault : List Char → Fault
  | [] => .truncated
  | _ :: _ => .malformed

/-- The digits before the point: a lone zero, or digits that begin with another one. -/
def lexWhole : List Char → Except Fault (List Char × List Char)
  | [] => .error .truncated
  | '0' :: rest =>
    match rest with
    | c :: _ => if c.isDigit then .error .malformed else .ok (['0'], rest)
    | [] => .ok (['0'], rest)
  | c :: rest =>
    if c.isDigit then .ok (c :: rest.takeWhile Char.isDigit, rest.dropWhile Char.isDigit)
    else .error .malformed

/-- The digits after the point, if there is a point. -/
def lexFraction : List Char → Except Fault (List Char × List Char)
  | '.' :: rest =>
    match rest.takeWhile Char.isDigit with
    | [] => .error (digitFault rest)
    | digits => .ok (digits, rest.dropWhile Char.isDigit)
  | rest => .ok ([], rest)

/-- The sign of an exponent: a minus sign, or a plus sign or nothing. -/
def lexSign : List Char → Bool × List Char
  | '-' :: rest => (true, rest)
  | '+' :: rest => (false, rest)
  | rest => (false, rest)

/-- Whether the letter begins an exponent. -/
def isExponentMark (c : Char) : Bool := c == 'e' || c == 'E'

/-- The exponent, if there is one. -/
def lexExponent : List Char → Except Fault (Option (Bool × List Char) × List Char)
  | c :: rest =>
    if isExponentMark c then
      let (negative, digits) := lexSign rest
      match digits.takeWhile Char.isDigit with
      | [] => .error (digitFault digits)
      | found => .ok (some (negative, found), digits.dropWhile Char.isDigit)
    else .ok (none, c :: rest)
  | [] => .ok (none, [])

/-- The numeral after its sign, and what follows it. -/
def lexNumeral (negative : Bool) (text : List Char) : Except Fault (Numeral × List Char) := do
  let (whole, rest) ← lexWhole text
  let (fraction, rest) ← lexFraction rest
  let (exponent, rest) ← lexExponent rest
  return (⟨negative, whole, fraction, exponent⟩, rest)

/-! ### Strings -/

/-- A piece of a string: a character, or a code unit of 16 bits written by its number. -/
inductive Piece where
  | char (c : Char)
  | unit (code : Nat)
  deriving DecidableEq, Repr

/-- The pieces of a string up to its closing quote, or up to a fault. -/
structure StringToken where
  pieces : List Piece
  fault : Option Fault
  deriving DecidableEq, Repr

/-- The value of a hexadecimal digit. -/
def hexValue? (c : Char) : Option Nat :=
  if c.isDigit then some (c.toNat - '0'.toNat)
  else if 'a' ≤ c && c ≤ 'f' then some (c.toNat - 'a'.toNat + 10)
  else if 'A' ≤ c && c ≤ 'F' then some (c.toNat - 'A'.toNat + 10)
  else none

/-- The code unit that four hexadecimal digits name. -/
def unitOfHex? (a b c d : Char) : Option Nat := do
  return ((← hexValue? a) * 16 + (← hexValue? b)) * 256
    + (← hexValue? c) * 16 + (← hexValue? d)

/-- The character that a letter after a backslash stands for. -/
def escaped? : Char → Option Char
  | '"' => some '"'
  | '\\' => some '\\'
  | '/' => some '/'
  | 'b' => some (Char.ofNat 8)
  | 'f' => some (Char.ofNat 12)
  | 'n' => some '\n'
  | 'r' => some '\r'
  | 't' => some '\t'
  | _ => none

/-- The fault of an escape by number with fewer than four characters left: truncated if
less than four bytes are left. -/
def shortEscapeFault (rest : List Char) : Fault :=
  if (String.ofList rest).utf8ByteSize < 4 then .truncated else .malformed

/-- The string with one more piece in front. -/
def StringToken.cons (piece : Piece) (token : StringToken) : StringToken :=
  { token with pieces := piece :: token.pieces }

/-- The string after its opening quote, and what follows it. -/
def lexString : List Char → StringToken × List Char
  | [] => (⟨[], some .truncated⟩, [])
  | '"' :: rest => (⟨[], none⟩, rest)
  | '\\' :: 'u' :: a :: b :: c :: d :: rest =>
    match unitOfHex? a b c d with
    | some code =>
      let (token, after) := lexString rest
      (token.cons (.unit code), after)
    | none => (⟨[], some .malformed⟩, rest)
  | '\\' :: 'u' :: rest => (⟨[], some (shortEscapeFault rest)⟩, [])
  | '\\' :: c :: rest =>
    match escaped? c with
    | some e =>
      let (token, after) := lexString rest
      (token.cons (.char e), after)
    | none => (⟨[], some .malformed⟩, rest)
  | ['\\'] => (⟨[], some .truncated⟩, [])
  | c :: rest =>
    if c.toNat < 0x20 then (⟨[], some .malformed⟩, rest)
    else
      let (token, after) := lexString rest
      (token.cons (.char c), after)

/-- The code unit is the first half of a pair. -/
def isLeading (code : Nat) : Bool := 0xD800 ≤ code && code ≤ 0xDBFF

/-- The code unit is the second half of a pair. -/
def isTrailing (code : Nat) : Bool := 0xDC00 ≤ code && code ≤ 0xDFFF

/-- The character that a pair of code units stands for. -/
def pairChar (leading trailing : Nat) : Char :=
  Char.ofNat ((leading - 0xD800) * 1024 + (trailing - 0xDC00) + 0x10000)

/-- The characters of a string's pieces. A half of a pair without the other one is
malformed; a first half at the very end breaks as the string does. -/
def joinPieces : List Piece → Option Fault → Except Fault (List Char)
  | [], none => .ok []
  | [], some fault => .error fault
  | .char c :: rest, fault => do return c :: (← joinPieces rest fault)
  | [.unit code], fault =>
    if isTrailing code then .error .malformed
    else if isLeading code then .error (fault.getD .malformed)
    else
      match fault with
      | none => .ok [Char.ofNat code]
      | some fault => .error fault
  | .unit code :: .char c :: rest, fault =>
    if isTrailing code || isLeading code then .error .malformed
    else do return Char.ofNat code :: c :: (← joinPieces rest fault)
  | .unit code :: .unit next :: rest, fault =>
    if isTrailing code then .error .malformed
    else if isLeading code then
      if isTrailing next then do return pairChar code next :: (← joinPieces rest fault)
      else .error .malformed
    else do return Char.ofNat code :: (← joinPieces (.unit next :: rest) fault)

/-- The string's text. -/
def StringToken.text (token : StringToken) : Except Fault String :=
  (joinPieces token.pieces token.fault).map String.ofList

/-! ### Words -/

/-- What follows the rest of a word, which stands letter by letter at the head. -/
def lexWord : (letters text : List Char) → Except Fault (List Char)
  | [], text => .ok text
  | _ :: _, [] => .error .truncated
  | letter :: letters, c :: text =>
    if c = letter then lexWord letters text else .error .malformed

/-! ### Tokens -/

inductive Token where
  | openArray | closeArray | openObject | closeObject | comma | colon
  | null
  | bool (value : Bool)
  /-- A word that begins like `null`, `true` or `false`. -/
  | brokenWord (fault : Fault)
  | number (numeral : Numeral)
  | brokenNumber (fault : Fault)
  | string (token : StringToken)
  /-- A character that begins no token. -/
  | stray
  deriving DecidableEq, Repr

/-- The token at a first character that is no space, and the text after it. After a broken
token nothing is left. -/
def lexToken (c : Char) (rest : List Char) : Token × List Char :=
  let word (token : Token) (letters : List Char) : Token × List Char :=
    match lexWord letters rest with
    | .ok after => (token, after)
    | .error fault => (.brokenWord fault, [])
  let number (negative : Bool) (text : List Char) : Token × List Char :=
    match lexNumeral negative text with
    | .ok (numeral, after) => (.number numeral, after)
    | .error fault => (.brokenNumber fault, [])
  match c with
  | '[' => (.openArray, rest)
  | ']' => (.closeArray, rest)
  | '\x7b' => (.openObject, rest)
  | '\x7d' => (.closeObject, rest)
  | ',' => (.comma, rest)
  | ':' => (.colon, rest)
  | 'n' => word .null ['u', 'l', 'l']
  | 't' => word (.bool true) ['r', 'u', 'e']
  | 'f' => word (.bool false) ['a', 'l', 's', 'e']
  | '"' =>
    let (token, after) := lexString rest
    (.string token, if token.fault.isSome then [] else after)
  | '-' => number true rest
  | c => if c.isDigit then number false (c :: rest) else (.stray, [])

/-- The tokens of the text's first `fuel` tokens and spaces. -/
def tokensUpTo : (fuel : Nat) → List Char → List Token
  | 0, _ => []
  | _ + 1, [] => []
  | fuel + 1, c :: rest =>
    if isSpace c then tokensUpTo fuel rest
    else
      let (token, after) := lexToken c rest
      token :: tokensUpTo fuel after

/-- The tokens of a text. Each takes at least one character, so there are no more steps
than characters. -/
def tokens (text : List Char) : List Token := tokensUpTo text.length text

end KernelBridge.Json
