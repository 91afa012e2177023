import KernelBridge.Decimal.Scaled
import KernelBridge.Json.Token

/-!
# The value of a numeral

A numeral without point and exponent is an integer as long as 64 bits hold it. Every
other one is a binary64: its digits are taken into a significand of 64 bits until the
next one would not fit, and the significand is scaled by the power of ten of the last
digit taken. A numeral whose value lies beyond the largest binary64 has none.

## Main definitions

* `Json.Number` — a natural number, a negative integer, or a binary64
* `Json.Numeral.value?` — the value of a numeral
-/

namespace KernelBridge.Json

/-- The value of a numeral. A binary64 is given by its bits. -/
inductive Number where
  | natural (value : Nat)
  | negative (magnitude : Nat)
  | binary (bits : UInt64)
  deriving DecidableEq, Repr

/-- The largest significand. -/
def maxSignificand : Nat := UInt64.size - 1

/-- The largest exponent that is read. -/
def maxExponent : Nat := 0x7FFFFFFF

/-- The significand followed by the digits, up to the first digit that does not fit, and
the digits from there on. -/
def takeDigits (limit : Nat) : (significand : Nat) → List Char → Nat × List Char
  | significand, [] => (significand, [])
  | significand, digit :: rest =>
    let longer := 10 * significand + (digit.toNat - '0'.toNat)
    if longer ≤ limit then takeDigits limit longer rest else (significand, digit :: rest)

/-- The binary64 of a significand and a power of ten, with a sign. -/
def signedBinary (negative : Bool) (significand : Nat) (power : Int) : Option Number :=
  (Decimal.scaled (UInt64.ofNat significand) power).map fun value =>
    .binary (if negative then (-value).toBits else value.toBits)

/-- The binary64 of a significand and a power of ten that an exponent changes. An exponent
too large to read gives zero for a zero significand or a negative exponent, and no value
otherwise. -/
def withExponent (negative : Bool) (significand : Nat) (power : Int) :
    Option (Bool × List Char) → Option Number
  | none => signedBinary negative significand power
  | some (down, digits) =>
    match takeDigits maxExponent 0 digits with
    | (exponent, []) =>
      signedBinary negative significand (if down then power - exponent else power + exponent)
    | _ =>
      if significand ≠ 0 && !down then none
      else some (.binary (if negative then (-0.0 : Float).toBits else (0.0 : Float).toBits))

/-- The largest magnitude of a negative integer of 64 bits. -/
def maxNegative : Nat := 0x8000000000000000

/-- An integer of at most 64 bits. Minus zero and a negative integer that is too large are
binary64s. -/
def integer (negative : Bool) (magnitude : Nat) : Number :=
  if !negative then .natural magnitude
  else if magnitude = 0 || maxNegative < magnitude then
    .binary (-(UInt64.ofNat magnitude).toFloat).toBits
  else .negative magnitude

/-- The value of a numeral, or nothing if it lies out of range. -/
def Numeral.value? (numeral : Numeral) : Option Number :=
  let (significand, left) := takeDigits maxSignificand 0 numeral.whole
  if left.isEmpty && numeral.fraction.isEmpty && numeral.exponent.isNone then
    some (integer numeral.negative significand)
  else
    let (significand, fraction) := takeDigits maxSignificand significand numeral.fraction
    let taken := numeral.fraction.length - fraction.length
    withExponent numeral.negative significand ((left.length : Int) - taken) numeral.exponent

end KernelBridge.Json
