import KernelBridge.Decimal.Literal
import KernelBridge.Pattern.Basic
import KernelBridge.Text.Unsigned
import KernelBridge.Tracing.Event

/-!
# Filters

A filter says which events a subscriber sees. It is written as directives between commas,
each of the form `target[span{field=value}]=level`, in which every part may be left out and
a value is a number or a pattern.

## Main definitions

* `Tracing.Verbosity` — a level, or nothing at all
* `Tracing.Directive.parse` — one directive
* `Tracing.Filter.parse` — the directives of a text
* `Tracing.Filter.verbosity` — the most verbose level that some directive enables
-/

namespace KernelBridge.Tracing

/-- How much a directive lets through: nothing, or a level and everything more severe. -/
inductive Verbosity where
  | off
  | error
  | warn
  | info
  | debug
  | trace
  deriving DecidableEq, Repr

namespace Verbosity

/-- Every verbosity, from the least verbose on. -/
def all : List Verbosity := [off, error, warn, info, debug, trace]

def name : Verbosity → String
  | off => "off"
  | error => "error"
  | warn => "warn"
  | info => "info"
  | debug => "debug"
  | trace => "trace"

/-- The place of the verbosity among all of them. -/
def index : Verbosity → Nat
  | off => 0
  | error => 1
  | warn => 2
  | info => 3
  | debug => 4
  | trace => 5

/-- The more verbose one of two. -/
def more (a b : Verbosity) : Verbosity := if a.index ≤ b.index then b else a

/-- The verbosity of a name in any case, or of its place among all of them. -/
def parse? (text : List Char) : Option Verbosity :=
  match Text.readUnsigned (UInt64.size - 1) text with
  | some place => all[place]?
  | none => all.find? fun verbosity => Text.sameLetters verbosity.name (String.ofList text)

end Verbosity

/-- One directive: how much it enables, and whether it asks for the values of fields. -/
structure Directive where
  verbosity : Verbosity
  asksValues : Bool
  deriving DecidableEq, Repr

namespace Directive

/-- What a field may be asked to have: a number or a pattern. -/
def isValue (text : List Char) : Bool := Decimal.isLiteral text || Pattern.isPattern text

/-- Whether a field is asked for a value, if it makes sense. The name is followed by `=` and
the value; what follows a second `=` means nothing. -/
def asksValue? (field : List Char) : Option Bool :=
  match field.dropWhile (· != '=') with
  | [] => some false
  | _ :: rest => if isValue (rest.takeWhile (· != '=')) then some true else none

/-! ### Places in a text -/

/-- The text from a place on, if a character begins there. Places are counted in bytes. -/
def dropBytes? : (place : Nat) → List Char → Option (List Char)
  | 0, text => some text
  | _ + 1, [] => none
  | place + 1, c :: rest =>
    if c.utf8Size ≤ place + 1 then dropBytes? (place + 1 - c.utf8Size) rest else none

/-- The text up to a place, if a character ends there. -/
def takeBytes? : (place : Nat) → List Char → Option (List Char)
  | 0, _ => some []
  | _ + 1, [] => none
  | place + 1, c :: rest =>
    if c.utf8Size ≤ place + 1 then (takeBytes? (place + 1 - c.utf8Size) rest).map (c :: ·)
    else none

/-- The text between two places. -/
def cut? (start stop : Nat) (text : List Char) : Option (List Char) := do
  takeBytes? (stop - start) (← dropBytes? start text)

/-! ### Reading -/

/-- Where in a directive a character stands, with the place where its part began. -/
inductive Position where
  | start
  /-- In a word that is a target, or a level alone. -/
  | word
  | span
  | field (since : Nat)
  | afterFields
  | afterSpan
  | level (since : Nat)
  deriving DecidableEq, Repr

/-- What has been read of a directive: the position, the place, and whether a field is asked
for its value. -/
structure Scan where
  position : Position := .start
  place : Nat := 0
  asksValues : Bool := false

/-- A word may begin with a letter or a numeral, a dash, a colon or an underscore. -/
def isWordStart (c : Char) : Bool :=
  c == '-' || c == ':' || c == '_' || Text.isAlphanumeric c

/-- The position after one more character, which ends at the place `next`, if it may stand
there. -/
def Position.step (next : Nat) (c : Char) : Position → Option Position
  | .start => if c = '[' then some .span else if isWordStart c then some .word else none
  | .word => if c = '=' then some (.level next) else if c = '[' then some .span else some .word
  | .span =>
    if c = ']' then some .afterSpan else if c = '\x7b' then some (.field next) else some .span
  | .field since => if c = '\x7d' then some .afterFields else some (.field since)
  | .afterFields => if c = ']' then some .afterSpan else none
  | .afterSpan => if c = '=' then some (.level next) else none
  | .level since => some (.level since)

/-- Whether the part that ends before the character asks for a value, if it makes sense. A
field has a text. -/
def Scan.askedBefore (text : List Char) (scan : Scan) (c : Char) : Option Bool :=
  match scan.position with
  | .field since =>
    if c = '\x7d' then
      if since = scan.place then none else (cut? since scan.place text).bind asksValue?
    else some false
  | _ => some false

/-- What has been read after one more character. -/
def Scan.step (text : List Char) (scan : Scan) (c : Char) : Option Scan := do
  let next := scan.place + c.utf8Size
  let asks ← scan.askedBefore text c
  return ⟨← scan.position.step next c, next, scan.asksValues || asks⟩

/-- How much a directive enables that ends at the position. A word that is no level is a
target, of which everything is enabled. -/
def Position.verbosity (text : List Char) : Position → Option Verbosity
  | .word => some ((Verbosity.parse? text).getD .trace)
  | .level since =>
    match dropBytes? since text with
    | some [] => some .trace
    | some letters => Verbosity.parse? letters
    | none => none
  | .afterSpan => some .trace
  | _ => none

/-- The directive of a text. Its places are counted without the blanks around it, but its
parts are cut from the text as it stands: beside blanks a word is never a level, and no level
can be given. -/
def parse (text : List Char) : Option Directive := do
  let scan ← (Text.trim text).foldlM (Scan.step text) {}
  return ⟨← scan.position.verbosity text, scan.asksValues⟩

end Directive

/-- The directives that decide what a subscriber sees. -/
structure Filter where
  directives : List Directive
  deriving DecidableEq, Repr

namespace Filter

/-- The pieces between commas that are not empty. -/
def pieces (text : String) : List (List Char) :=
  (text.toList.splitOn ',').filter fun piece => !piece.isEmpty

/-- The filter of a text in which every directive is valid. -/
def parse (text : String) : Option Filter := do
  return ⟨← (pieces text).mapM Directive.parse⟩

/-- The filter of the valid directives of a text, or the one that lets errors through if
there are none. -/
def parseLossy (text : String) : Filter :=
  match (pieces text).filterMap Directive.parse with
  | [] => ⟨[⟨.error, false⟩]⟩
  | directives => ⟨directives⟩

/-- The most verbose level that is enabled somewhere. A directive that asks for the values
of fields has to see every span. -/
def verbosity (filter : Filter) : Verbosity :=
  if filter.directives.any Directive.asksValues then .trace
  else filter.directives.foldl (fun verbosity directive => verbosity.more directive.verbosity) .off

end Filter

end KernelBridge.Tracing
