/-!
# Scaling by powers of ten

A decimal numeral is read as a significand of at most 64 bits and a power of ten. The
significand is rounded to a binary64 first and then multiplied or divided by the power,
one power up to 10^308 at a time, so the result may miss the nearest binary64 by a
rounding. A product beyond the largest binary64 has no value.

## Main definitions

* `Decimal.tenTo` — a power of ten as a binary64
* `Decimal.scaled` — a significand times a power of ten
-/

namespace KernelBridge.Decimal

/-- The largest exponent whose power of ten is a finite binary64. -/
def maxPower : Nat := 308

/-- The binary64 nearest to the power of ten. -/
def tenTo (exponent : Nat) : Float := Float.ofScientific 1 false exponent

/-- The value times the power of ten, dividing by 10^308 while the exponent lies below
its range. Two such divisions take every 64-bit significand to zero, so `steps` of three
are enough. -/
def scaleBy (value : Float) (exponent : Int) : (steps : Nat) → Option Float
  | 0 => some value
  | steps + 1 =>
    if exponent.natAbs ≤ maxPower then
      if 0 ≤ exponent then
        let product := value * tenTo exponent.natAbs
        if product.isInf then none else some product
      else some (value / tenTo exponent.natAbs)
    else if value == 0.0 then some value
    else if 0 ≤ exponent then none
    else scaleBy (value / tenTo maxPower) (exponent + maxPower) steps

/-- The significand times the power of ten, or nothing beyond the largest binary64. -/
def scaled (significand : UInt64) (exponent : Int) : Option Float :=
  scaleBy significand.toFloat exponent 4

end KernelBridge.Decimal
