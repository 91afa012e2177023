import KernelBridge.Pattern.Item

/-!
# Classes of characters

Between brackets a pattern lists the characters that may stand at one place: single ones,
ranges, kinds with a name, and further classes between brackets of their own. Two lists
are joined by `&&`, `--` or `~~`, from left to right.

## Main definitions

* `Pattern.OpenClass` — a class whose closing bracket is still to come
* `Pattern.readClass` — the rest of a class
-/

namespace KernelBridge.Pattern

/-- What is known of a class whose closing bracket is still to come. The height of a class
is the number of brackets, lists and operators around its innermost member. -/
structure OpenClass where
  /-- The number of members of the list, and the greatest height of one of them. -/
  members : Nat := 0
  height : Nat := 0
  /-- The height of what stands before the last operator. -/
  left : Option Nat := none
  /-- Only dashes have been read. -/
  fresh : Bool := true

namespace OpenClass

/-- The class with one more member. -/
def add (current : OpenClass) (height : Nat) : OpenClass :=
  { current with
    members := current.members + 1
    height := max current.height height
    fresh := false }

/-- The height of the list that is being read. A list of one member is that member. -/
def listHeight (current : OpenClass) : Nat :=
  if current.members ≤ 1 then current.height else current.height + 1

/-- The height of everything between the brackets. -/
def total (current : OpenClass) : Nat :=
  match current.left with
  | none => current.listHeight
  | some left => max left current.listHeight + 1

/-- The class after an operator. -/
def operator (current : OpenClass) : OpenClass :=
  { left := some current.total, fresh := false }

/-- At the head of a class dashes are members, and so is a closing bracket after none. -/
def takesLiterally (current : OpenClass) (c : Char) : Bool :=
  current.fresh && (c == '-' || (c == ']' && current.members == 0))

end OpenClass

/-- The names of kinds of ASCII characters. -/
def kindNames : List String := [
  "alnum", "alpha", "ascii", "blank", "cntrl", "digit", "graph", "lower", "print", "punct",
  "space", "upper", "word", "xdigit"]

/-- A named kind after its opening bracket: whether it stands for all other characters, and
the text after it. -/
def readKind : List Char → Option (Bool × List Char)
  | ':' :: text =>
    let negated := text.head? == some '^'
    let text := if negated then text.tail else text
    match text.dropWhile (· != ':') with
    | ':' :: ']' :: rest =>
      if kindNames.contains (String.ofList (text.takeWhile (· != ':'))) then some (negated, rest)
      else none
    | _ => none
  | _ => none

/-- A named kind may stand between brackets. -/
def Modes.allowsKind (modes : Modes) (negated : Bool) : Bool :=
  if modes.unicode then !modes.ignoreCase else !negated

/-- The text after the sign that makes a class stand for all other characters. If bytes are
matched, those are not all ASCII. -/
def readNegation (modes : Modes) (text : List Char) : Option (List Char) :=
  match modes.skip text with
  | '^' :: rest => if modes.unicode then some rest else none
  | rest => some rest

/-- The two ends of a range: characters in order. -/
def isRange (modes : Modes) : (first last : Item) → Bool
  | .char low byteLow, .char high byteHigh =>
    low ≤ high && (Item.char low byteLow).isMember modes
      && (Item.char high byteHigh).isMember modes
  | _, _ => false

/-- The text after a member or a range. A dash before the closing bracket or another dash
makes no range. -/
def readRange (modes : Modes) (text : List Char) : Option (List Char) := do
  let (first, rest) ← readMember modes text
  match modes.skip rest with
  | '-' :: after =>
    if modes.peek after == some ']' || modes.peek after == some '-' then
      if first.isMember modes then some ('-' :: after) else none
    else
      let (last, rest) ← readMember modes (modes.skip after)
      if isRange modes first last then some rest else none
  | rest => if first.isMember modes then some rest else none

/-- The characters that join two lists when they are doubled. -/
def operators : List Char := ['&', '-', '~']

/-- The height of a class with its brackets, and the text after it. The classes around it
that are still open are `outer`, the innermost first. Every step takes a character, so the
length of the text is fuel enough. -/
def readClass (modes : Modes) : (fuel : Nat) → OpenClass → (outer : List OpenClass) →
    List Char → Option (Nat × List Char)
  | 0, _, _, _ => none
  | fuel + 1, current, outer, text =>
    match modes.skip text with
    | [] => none
    | c :: rest =>
      if current.takesLiterally c then
        if (Item.char c false).isMember modes then
          readClass modes fuel { current.add 0 with fresh := c == '-' } outer rest
        else none
      else if c = '[' then
        match readKind rest with
        | some (negated, rest) =>
          if modes.allowsKind negated then readClass modes fuel (current.add 0) outer rest else none
        | none => do readClass modes fuel {} (current :: outer) (← readNegation modes rest)
      else if c = ']' then
        match outer with
        | [] => some (current.total + 1, rest)
        | next :: outer => readClass modes fuel (next.add (current.total + 1)) outer rest
      else if operators.contains c && rest.head? == some c then
        readClass modes fuel current.operator outer rest.tail
      else do readClass modes fuel (current.add 0) outer (← readRange modes (c :: rest))

end KernelBridge.Pattern
