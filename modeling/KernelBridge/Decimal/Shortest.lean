/-!
# The shortest decimal of a binary64

A finite binary64 is written with the fewest decimal digits that no other binary64 is
nearer to, and among those with the digits nearest to its value. All comparisons are
exact ones of natural numbers.

## Main definitions

* `Decimal.Binary` — a positive binary64 as an integer times a power of two
* `Decimal.shortest` — the digits and the power of ten of its shortest decimal
* `Decimal.text` — the text: positional for exponents near zero, scientific elsewhere
-/

namespace KernelBridge.Decimal

/-- The magnitude `mantissa * 2 ^ exponent` of a finite binary64. The flag tells whether
the next smaller value is only half a step away. -/
structure Binary where
  mantissa : Nat
  exponent : Int
  closeBelow : Bool

/-- The leading bit of a mantissa, which is not stored. -/
def hiddenBit : Nat := 0x10000000000000

/-- The magnitude behind the bits of a finite binary64. -/
def Binary.ofBits (bits : UInt64) : Binary :=
  let fraction : Nat := bits.toNat % hiddenBit
  let biased : Nat := bits.toNat / hiddenBit % 0x800
  if biased = 0 then ⟨fraction, -1074, false⟩
  else ⟨fraction + hiddenBit, (biased : Int) - 1075, fraction = 0 && 1 < biased⟩

namespace Binary

/-- Numerator of the value in steps of `10 ^ grid`. -/
def numerator (x : Binary) (grid : Int) : Nat :=
  Nat.pow 2 x.exponent.toNat * Nat.pow 10 (-grid).toNat

/-- Denominator of the value in steps of `10 ^ grid`. -/
def denominator (x : Binary) (grid : Int) : Nat :=
  Nat.pow 2 (-x.exponent).toNat * Nat.pow 10 grid.toNat

/-- `count` steps of `10 ^ grid` round to the value: they lie within half a binary step of
it, the ends included iff the mantissa is even. -/
def holds (x : Binary) (grid : Int) (count : Nat) : Bool :=
  let point := 4 * count * x.denominator grid
  let low := (4 * x.mantissa - if x.closeBelow then 1 else 2) * x.numerator grid
  let high := (4 * x.mantissa + 2) * x.numerator grid
  if x.mantissa % 2 = 0 then low ≤ point && point ≤ high else low < point && point < high

/-- The number of decimal digits before the point, zero or negative below 0.1. -/
def magnitude (x : Binary) : Int :=
  let scaled :=
    x.mantissa * Nat.pow 2 x.exponent.toNat * Nat.pow 10 400 / Nat.pow 2 (-x.exponent).toNat
  ((Nat.toDigits 10 scaled).length : Int) - 400

/-- The neighbour of the value on the grid that rounds to it, the nearer one of two, the
even one of two equally near. -/
def onGrid? (x : Binary) (grid : Int) : Option Nat :=
  let scaled := x.mantissa * x.numerator grid
  let below := scaled / x.denominator grid
  match x.holds grid below, x.holds grid (below + 1) with
  | false, false => none
  | true, false => some below
  | false, true => some (below + 1)
  | true, true =>
    let twice := 2 * (scaled % x.denominator grid)
    if twice < x.denominator grid || (twice == x.denominator grid && below % 2 = 0) then
      some below
    else some (below + 1)

/-- The first grid, from one digit on, with a point that rounds to the value. -/
def search (x : Binary) (digits : Nat) : (steps : Nat) → Nat × Int
  | 0 => (0, 0)
  | steps + 1 =>
    let grid := x.magnitude - digits
    match x.onGrid? grid with
    | some count => (count, grid)
    | none => search x (digits + 1) steps

end Binary

/-- A count of steps without its trailing zeros, which go into the power of ten. -/
def stripZeros (count : Nat) (grid : Int) : (steps : Nat) → Nat × Int
  | 0 => (count, grid)
  | steps + 1 =>
    if count % 10 = 0 ∧ count ≠ 0 then stripZeros (count / 10) (grid + 1) steps
    else (count, grid)

/-- The digits and the power of ten of the shortest decimal of a positive binary64. -/
def shortest (x : Binary) : Nat × Int :=
  let (count, grid) := x.search 1 17
  stripZeros count grid 18

/-- The text of an exponent: always with its sign. -/
def exponentText (exponent : Int) : List Char :=
  let sign := if exponent < 0 then '-' else '+'
  'e' :: sign :: Nat.toDigits 10 exponent.natAbs

/-- The text of digits times a power of ten: with a point and no exponent if the point
stands among the first 16 digits or at most five places before the first one, else with
one digit before the point and an exponent. -/
def layout (digits : List Char) (power : Int) : List Char :=
  let point : Int := digits.length + power
  if 0 ≤ power ∧ point ≤ 16 then digits ++ List.replicate power.toNat '0' ++ ['.', '0']
  else if 0 < point ∧ point ≤ 16 then
    digits.take point.toNat ++ '.' :: digits.drop point.toNat
  else if -5 < point ∧ point ≤ 0 then
    '0' :: '.' :: List.replicate (-point).toNat '0' ++ digits
  else
    let exponent := exponentText (point - 1)
    match digits with
    | [digit] => digit :: exponent
    | digit :: rest => digit :: '.' :: rest ++ exponent
    | [] => exponent

/-- The text of a finite binary64, given by its bits. -/
def text (bits : UInt64) : String :=
  let sign := if 0x8000000000000000 ≤ bits.toNat then "-" else ""
  let x := Binary.ofBits bits
  if x.mantissa = 0 then sign ++ "0.0"
  else
    let (count, power) := shortest x
    sign ++ String.ofList (layout (Nat.toDigits 10 count) power)

end KernelBridge.Decimal
