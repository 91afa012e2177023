import KernelBridge.Pattern.CharacterClass
import KernelBridge.Text.Alphanumeric

/-!
# Patterns

Whether a text is a pattern: a regular expression of supported items that is not nested
too deeply. Items follow each other in sequences, `|` stands between alternatives,
parentheses make a group, and `*`, `+` and `?` repeat what stands before them. Repetitions
with a number are no part of patterns here, since their braces end the field of a filter.

## Main definitions

* `Pattern.Sequence`, `Pattern.Level`, `Pattern.Reading` — what is known of the text so far
* `Pattern.isPattern` — the texts that are patterns
-/

namespace KernelBridge.Pattern

/-- What is known of a sequence of items. The height of a part is the number of sequences,
alternatives, groups, repetitions and classes around its innermost item. -/
structure Sequence where
  items : Nat := 0
  /-- The greatest height of an item before the last one. -/
  height : Nat := 0
  /-- The height of the last item, if it can be repeated. -/
  last : Option Nat := none

namespace Sequence

/-- The greatest height of an item. -/
def itemHeight (sequence : Sequence) : Nat := max sequence.height (sequence.last.getD 0)

/-- The height of the sequence. A sequence of one item is that item. -/
def total (sequence : Sequence) : Nat :=
  if sequence.items ≤ 1 then sequence.itemHeight else sequence.itemHeight + 1

/-- The sequence with one more item; what cannot be repeated has no height. -/
def add (sequence : Sequence) (last : Option Nat) : Sequence where
  items := sequence.items + 1
  height := sequence.itemHeight
  last := last

/-- The sequence with its last item repeated. -/
def repeated? (sequence : Sequence) : Option Sequence :=
  sequence.last.map fun height => { sequence with last := some (height + 1) }

end Sequence

/-- A group that is still open, or the whole pattern. -/
structure Level where
  modes : Modes := {}
  sequence : Sequence := {}
  /-- The greatest height of an alternative before the one that is being read. -/
  before : Option Nat := none

namespace Level

/-- The level with one more item. -/
def add (level : Level) (height : Nat) : Level :=
  { level with sequence := level.sequence.add (some height) }

/-- The level with other modes from here on. -/
def switch (level : Level) (modes : Modes) : Level :=
  { level with modes, sequence := level.sequence.add none }

/-- The level where another alternative begins. -/
def branch (level : Level) : Level :=
  { level with sequence := {}, before := some (max (level.before.getD 0) level.sequence.total) }

/-- The height of everything in the level. -/
def total (level : Level) : Nat :=
  match level.before with
  | none => level.sequence.total
  | some before => max before level.sequence.total + 1

end Level

/-! ### Groups -/

/-- What an opening parenthesis begins. -/
inductive Opening where
  | group (modes : Modes) (name : Option (List Char))
  | switch (modes : Modes)

/-- A group may have a name: a letter or an underscore, then letters, numerals,
underscores, dots and brackets. -/
def isName : List Char → Bool
  | [] => false
  | first :: rest =>
    (first == '_' || Text.isAlphabetic first)
      && rest.all fun c => ['_', '.', '[', ']'].contains c || Text.isAlphanumeric c

/-- The group whose name stands at the head of the text. -/
def readName (modes : Modes) (text : List Char) : Option (Opening × List Char) :=
  let name := text.takeWhile (· != '>')
  match text.dropWhile (· != '>') with
  | [] => none
  | _ :: rest => if isName name then some (.group modes (some name), rest) else none

/-- The group or switch whose letters stand at the head of the text. -/
def readSwitches (modes : Modes) (text : List Char) : Option (Opening × List Char) :=
  let isLetter (c : Char) : Bool := c != ':' && c != ')'
  let switches := text.takeWhile isLetter
  match text.dropWhile isLetter with
  | ':' :: rest => do return (.group (← modes.switch switches) none, rest)
  | ')' :: rest => do
    if switches.isEmpty then none else return (.switch (← modes.switch switches), rest)
  | _ => none

/-- What begins behind an opening parenthesis. -/
def readOpening (modes : Modes) (text : List Char) : Option (Opening × List Char) :=
  match modes.skip text with
  | '?' :: 'P' :: '<' :: rest => readName modes rest
  | '?' :: '<' :: rest => readName modes rest
  | '?' :: rest => readSwitches modes rest
  | rest => some (.group modes none, rest)

/-! ### Whole patterns -/

/-- What is known of a text that is being read. -/
structure Reading where
  level : Level := {}
  /-- The levels around it, the innermost first. -/
  outer : List Level := []
  /-- The names of groups. -/
  names : List (List Char) := []

namespace Reading

/-- The reading with one more item. -/
def add (reading : Reading) (height : Nat) : Reading :=
  { reading with level := reading.level.add height }

/-- The reading after an opening parenthesis. No two groups have one name. -/
def begin? (reading : Reading) : Opening → Option Reading
  | .switch modes => some { reading with level := reading.level.switch modes }
  | .group modes name =>
    if (name.map reading.names.contains).getD false then none
    else some {
      level := { modes }
      outer := reading.level :: reading.outer
      names := name.toList ++ reading.names }

/-- The reading after a closing parenthesis. -/
def close? (reading : Reading) : Option Reading :=
  match reading.outer with
  | [] => none
  | next :: outer => some { reading with level := next.add (reading.level.total + 1), outer }

/-- The reading after a sign of repetition. -/
def repeated? (reading : Reading) : Option Reading := do
  return { reading with level.sequence := ← reading.level.sequence.repeated? }

/-- The text after a sign of repetition; a second one makes it reluctant. -/
def dropReluctant : List Char → List Char
  | '?' :: rest => rest
  | rest => rest

/-- The reading after the thing at the head of a text, and the text after it. -/
def step (reading : Reading) (c : Char) (rest : List Char) : Option (Reading × List Char) := do
  let modes := reading.level.modes
  match c with
  | '(' =>
    let (opening, rest) ← readOpening modes rest
    return (← reading.begin? opening, rest)
  | ')' => return (← reading.close?, rest)
  | '|' => return ({ reading with level := reading.level.branch }, rest)
  | '[' =>
    let rest ← readNegation modes rest
    let (height, rest) ← readClass modes (rest.length + 1) {} [] rest
    return (reading.add height, rest)
  | '*' | '+' | '?' => return (← reading.repeated?, dropReluctant rest)
  | '\x7b' => none
  | c =>
    let (item, rest) ← readItem modes (c :: rest)
    if item.isSupported modes then return (reading.add 0, rest) else none

/-- The reading after the whole text. Every step takes a character, so the length of the
text is fuel enough. -/
def run : (fuel : Nat) → Reading → List Char → Option Reading
  | fuel, reading, text =>
    match reading.level.modes.skip text, fuel with
    | [], _ => some reading
    | _ :: _, 0 => none
    | c :: rest, fuel + 1 => do
      let (reading, rest) ← reading.step c rest
      run fuel reading rest

end Reading

/-- How deeply a pattern may be nested. -/
def maxHeight : Nat := 250

/-- The text is a pattern. -/
def isPattern (text : List Char) : Bool :=
  match Reading.run text.length {} text with
  | some reading => reading.outer.isEmpty && reading.level.total ≤ maxHeight
  | none => false

end KernelBridge.Pattern
