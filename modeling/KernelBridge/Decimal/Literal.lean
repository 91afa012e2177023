import KernelBridge.Text.Ascii

/-!
# Decimal literals

A value may be written as a number: an optional sign, then digits with at most one point
among or around them and an optional exponent, or the name of infinity or of no number.

## Main definitions

* `Decimal.isLiteral` — the texts that are numbers
-/

namespace KernelBridge.Decimal

/-- The text after an optional sign. -/
def unsigned : List Char → List Char
  | '+' :: rest => rest
  | '-' :: rest => rest
  | rest => rest

/-- The names of numbers that have no digits. -/
def namedNumbers : List String := ["inf", "infinity", "nan"]

/-- What follows the digits of a number: nothing, or an exponent with digits of its own. -/
def isExponent : List Char → Bool
  | [] => true
  | mark :: rest =>
    (mark == 'e' || mark == 'E') && unsigned rest != [] && (unsigned rest).all Char.isDigit

/-- Digits with a point, of which one side may be empty, and an exponent. -/
def isNumeral (text : List Char) : Bool :=
  let whole := text.takeWhile Char.isDigit
  match text.dropWhile Char.isDigit with
  | '.' :: rest =>
    !(whole.isEmpty && (rest.takeWhile Char.isDigit).isEmpty)
      && isExponent (rest.dropWhile Char.isDigit)
  | rest => !whole.isEmpty && isExponent rest

/-- The text is a number. -/
def isLiteral (text : List Char) : Bool :=
  let body := unsigned text
  namedNumbers.any (fun name => Text.sameLetters name (String.ofList body)) || isNumeral body

end KernelBridge.Decimal
