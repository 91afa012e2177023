import KernelBridge.Text.Blank

/-!
# Items of patterns

A pattern is a regular expression. Its items are characters, which stand for themselves or
behind a backslash, and signs for kinds of characters and for places in a text. No tables
of scripts come with patterns: as long as characters and not bytes are matched, neither
can case be ignored nor can digits, blanks, word characters or edges of words be asked for.
What matches bytes has to stay within ASCII, so that no character is cut in two.

## Main definitions

* `Pattern.Modes` — how items are read and what they match
* `Pattern.Item` — an item
* `Pattern.readItem` — the item at the head of a text
* `Pattern.Item.isSupported`, `Pattern.Item.isMember` — where an item may stand
-/

namespace KernelBridge.Pattern

/-! ### Modes -/

/-- What letters between parentheses switch on and off. -/
structure Modes where
  ignoreCase : Bool := false
  /-- Characters are matched, and not bytes. -/
  unicode : Bool := true
  /-- Blanks and comments between items mean nothing. -/
  spaced : Bool := false
  deriving DecidableEq, Repr

/-- The text after blanks and comments; a comment goes from its mark to the end of the line. -/
def skipSpace : (comment : Bool) → List Char → List Char
  | _, [] => []
  | true, c :: rest => skipSpace (c != '\n') rest
  | false, c :: rest =>
    if Text.isBlank c then skipSpace false rest
    else if c = '#' then skipSpace true rest
    else c :: rest

/-- The next character that is neither a blank nor the mark of a comment. What a comment
says counts here. -/
def peekSpace : (comment : Bool) → List Char → Option Char
  | _, [] => none
  | comment, c :: rest =>
    if Text.isBlank c then peekSpace comment rest
    else if c = '#' && !comment then peekSpace true rest
    else some c

namespace Modes

/-- The text from the next thing that means something on. -/
def skip (modes : Modes) (text : List Char) : List Char :=
  if modes.spaced then skipSpace false text else text

/-- The character that decides whether a dash before it makes a range. -/
def peek (modes : Modes) (text : List Char) : Option Char :=
  if modes.spaced then peekSpace false text else text.head?

/-- The letters of all modes, and the sign that switches off the modes after it. -/
def letters : List Char := ['i', 'm', 's', 'U', 'u', 'R', 'x', '-']

/-- A mode after its letter was looked for among those that switch. -/
def switched (switches : List Char) (letter : Char) (before : Bool) : Bool :=
  if (switches.takeWhile (· != '-')).contains letter then true
  else if switches.contains letter then false
  else before

/-- No letter stands twice. -/
def areDistinct : List Char → Bool
  | [] => true
  | c :: rest => !rest.contains c && areDistinct rest

/-- The modes after a switch, if it makes sense: no sign or letter stands twice, and
something is switched off behind the sign. -/
def switch (modes : Modes) (switches : List Char) : Option Modes :=
  if switches.all letters.contains && areDistinct switches && switches.getLast? != some '-' then
    some {
      ignoreCase := switched switches 'i' modes.ignoreCase
      unicode := switched switches 'u' modes.unicode
      spaced := switched switches 'x' modes.spaced }
  else none

end Modes

/-! ### Items -/

/-- An item of a pattern. -/
inductive Item where
  /-- A character. Two hexadecimal digits may name a byte instead. -/
  | char (c : Char) (byte : Bool)
  | anyChar
  /-- The begin or the end of the text or of a line. -/
  | textEdge
  | wordEdge
  /-- A digit, a blank or a word character, or any other character. -/
  | kind (negated : Bool)
  deriving DecidableEq, Repr

/-- The item may stand on its own. -/
def Item.isSupported (modes : Modes) : Item → Bool
  | char c byte => if modes.unicode then !modes.ignoreCase else !(byte && 0x7F < c.toNat)
  | anyChar => modes.unicode
  | textEdge => true
  | wordEdge => !modes.unicode
  | kind negated => !modes.unicode && !negated

/-- The item may stand between brackets. -/
def Item.isMember (modes : Modes) : Item → Bool
  | char c _ => if modes.unicode then !modes.ignoreCase else c.toNat ≤ 0x7F
  | kind negated => !modes.unicode && !negated
  | _ => false

/-- The value of a hexadecimal digit. -/
def hexValue? (c : Char) : Option Nat :=
  if c.isDigit then some (c.toNat - '0'.toNat)
  else if 'a' ≤ c && c ≤ 'f' then some (c.toNat - 'a'.toNat + 10)
  else if 'A' ≤ c && c ≤ 'F' then some (c.toNat - 'A'.toNat + 10)
  else none

/-- The number of so many hexadecimal digits after those of `value`. -/
def readHex (modes : Modes) : (digits value : Nat) → List Char → Option (Nat × List Char)
  | 0, value, text => some (value, text)
  | digits + 1, value, text =>
    match modes.skip text with
    | [] => none
    | c :: rest => do readHex modes digits (16 * value + (← hexValue? c)) rest

/-- The character with the code point of so many hexadecimal digits. -/
def readCode (modes : Modes) (digits : Nat) (text : List Char) : Option (Char × List Char) := do
  let (code, rest) ← readHex modes digits 0 text
  if code.isValidChar then return (Char.ofNat code, rest) else none

/-- What a character behind a backslash is. Signs stand for themselves, and only some
letters have a meaning. -/
def escaped? : Char → Option Item
  | 'a' => some (.char '\x07' false)
  | 'f' => some (.char '\x0C' false)
  | 'n' => some (.char '\n' false)
  | 'r' => some (.char '\r' false)
  | 't' => some (.char '\t' false)
  | 'v' => some (.char '\x0B' false)
  | 'A' | 'z' => some .textEdge
  | 'b' | 'B' | '<' | '>' => some .wordEdge
  | 'd' | 's' | 'w' => some (.kind false)
  | 'D' | 'S' | 'W' => some (.kind true)
  | c => if c.toNat < 0x80 && !c.isAlphanum then some (.char c false) else none

/-- The item behind a backslash. -/
def readEscape (modes : Modes) : List Char → Option (Item × List Char)
  | [] => none
  | 'x' :: rest => do
    let (c, rest) ← readCode modes 2 rest
    return (.char c true, rest)
  | 'u' :: rest => do
    let (c, rest) ← readCode modes 4 rest
    return (.char c false, rest)
  | 'U' :: rest => do
    let (c, rest) ← readCode modes 8 rest
    return (.char c false, rest)
  | c :: rest => do return (← escaped? c, rest)

/-- The item at the head of a text that stands between brackets. -/
def readMember (modes : Modes) : List Char → Option (Item × List Char)
  | [] => none
  | '\\' :: rest => readEscape modes rest
  | c :: rest => some (.char c false, rest)

/-- The item at the head of a text that stands on its own. -/
def readItem (modes : Modes) : List Char → Option (Item × List Char)
  | '.' :: rest => some (.anyChar, rest)
  | '^' :: rest => some (.textEdge, rest)
  | '$' :: rest => some (.textEdge, rest)
  | text => readMember modes text

end KernelBridge.Pattern
