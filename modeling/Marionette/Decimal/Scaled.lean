import Marionette.Decimal.Numeral

/-!
# Numerals read as floating-point numbers

The digits are gathered in a significand of at most 64 bits; digits that no longer fit are dropped, and
count only for the power of ten where they stand before the point.  The significand is rounded to a double
and scaled by the power of ten in one multiplication or division.  The result is the nearest double
whenever the significand and the power are exact doubles themselves, and may else be off in the last place.

## Main definitions

* `Significand`, `Significand.ofNumeral`.
* `Significand.toFloat?` — the scaled value, or `none` when it is too large for a double.
* `Numeral.toFloat?`.
-/

namespace Marionette

/-- A decimal number `digits · 10^exponent`. -/
structure Significand where
  digits : Nat
  exponent : Int
  deriving DecidableEq, Repr

namespace Significand

/-- The largest significand. -/
def limit : Nat := UInt64.size - 1

/-- Append digits as long as the significand stays within the limit; the rest is given back. -/
def gather (start : Nat) : List Digit → Nat × List Digit
  | [] => (start, [])
  | d :: ds =>
    if 10 * start + d.val ≤ limit then gather (10 * start + d.val) ds else (start, d :: ds)

/-- The significand of the digits of a numeral. -/
def ofNumeral (n : Numeral) : Significand :=
  let whole := gather 0 n.whole
  let all := gather whole.1 n.fraction
  { digits := all.1
    exponent := whole.2.length - (n.fraction.length - all.2.length : Nat) + n.exponent.getD 0 }

/-- The power of ten, for `e ≤ 308`. -/
def powerOfTen (e : Nat) : Float := Float.ofScientific 1 false e

/-- The value as a double: `none` where it is too large, and zero where it is too small. -/
def toFloat? (s : Significand) : Option Float :=
  let f := Float.ofNat s.digits
  if s.digits = 0 then some f
  else if s.exponent > 308 then none
  else if 0 ≤ s.exponent then
    let scaled := f * powerOfTen s.exponent.toNat
    if scaled.isInf then none else some scaled
  else if -308 ≤ s.exponent then some (f / powerOfTen (-s.exponent).toNat)
  else if -616 ≤ s.exponent then some (f / powerOfTen 308 / powerOfTen (-(s.exponent + 308)).toNat)
  else some 0.0

end Significand

/-- The numeral as a double, unless it is too large for one. -/
def Numeral.toFloat? (n : Numeral) : Option Float :=
  (Significand.ofNumeral n).toFloat?.map fun f => if n.negative then -f else f

end Marionette
