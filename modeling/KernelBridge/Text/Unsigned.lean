/-!
# Unsigned numerals

Capabilities and thresholds are written as decimal numerals: an optional plus sign,
then one or more ASCII digits, leading zeros allowed, with a value that fits the
word it is read into.

## Main definitions

* `Text.digitsValue` — the value of a list of digits
* `Text.readUnsigned` — the numeral's value, if there is one within the limit

## Main results

* `Text.readUnsigned_toDigits` — a number within the limit is read back from its digits
-/

namespace KernelBridge.Text

/-- The value of an ASCII digit. -/
def digitValue (c : Char) : Nat := c.toNat - '0'.toNat

/-- The value of a list of decimal digits, the most significant first. -/
def digitsValue (digits : List Char) : Nat :=
  digits.foldl (fun value digit => 10 * value + digitValue digit) 0

/-- The digits of a numeral: what follows an optional plus sign. -/
def unsignedDigits : List Char → List Char
  | '+' :: digits => digits
  | digits => digits

/-- The value of an unsigned numeral that is at most `limit`. -/
def readUnsigned (limit : Nat) (text : List Char) : Option Nat :=
  let digits := unsignedDigits text
  if digits.isEmpty || !digits.all Char.isDigit then none
  else if digitsValue digits ≤ limit then some (digitsValue digits) else none

/-- Digits carry no sign. -/
theorem unsignedDigits_of_all_isDigit {text : List Char} (h : text.all Char.isDigit = true) :
    unsignedDigits text = text := by
  unfold unsignedDigits
  split
  · next digits =>
    have hsign : Char.isDigit '+' = true := by simpa using (List.all_eq_true.mp h) '+' (by simp)
    exact absurd hsign (by decide)
  · rfl

/-- A number within the limit is read back from its decimal digits. -/
theorem readUnsigned_toDigits {limit n : Nat} (h : n ≤ limit) :
    readUnsigned limit (Nat.toDigits 10 n) = some n := by
  have hdigits : (Nat.toDigits 10 n).all Char.isDigit = true :=
    List.all_eq_true.mpr fun c hc => Nat.isDigit_of_mem_toDigits (by decide) (by decide) hc
  have hvalue : digitsValue (Nat.toDigits 10 n) = n :=
    Nat.ofDigitChars_toDigits (by decide) (by decide)
  have hempty : (Nat.toDigits 10 n).isEmpty = false := by simp [Nat.toDigits_ne_nil]
  simp [readUnsigned, unsignedDigits_of_all_isDigit hdigits, hdigits, hvalue, hempty, h]

end KernelBridge.Text
