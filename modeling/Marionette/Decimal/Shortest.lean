import Marionette.Decimal.Numeral

/-!
# The shortest decimal of a floating-point number

A positive finite double is `m · 2^q`.  Every real in an interval around it rounds to it, the ends included
exactly when `m` is even.  The shortest decimal is found on grids of powers of ten, the coarsest first: on
each grid one of the two neighbours of the value lies in the interval if any point of the grid does.

## Main definitions

* `Rounding` — the value and its interval over one denominator.
* `Rounding.onGrid?` — the point of a grid that reads back as the value.
* `Rounding.shortest` — the digits of the shortest decimal and the power of ten of the first.
* `Numeral.ofFloat` — the numeral of a finite double.
-/

namespace Marionette

/-- A positive number `value / unit` and the interval of the reals that round to it. -/
structure Rounding where
  low : Nat
  value : Nat
  high : Nat
  unit : Nat
  /-- Whether the ends round to the number too. -/
  closed : Bool
  deriving Repr

namespace Rounding

/-- The interval around `m · 2^q`.  Below a power of two the doubles lie twice as dense. -/
def ofBinary (m : Nat) (q : Int) (denseBelow : Bool) : Rounding :=
  let scale := 1 <<< q.toNat
  { low := (4 * m - if denseBelow then 1 else 2) * scale
    value := 4 * m * scale
    high := (4 * m + 2) * scale
    unit := 4 <<< (-q).toNat
    closed := m % 2 == 0 }

/-- Whether `point / unit` rounds to the number. -/
def holds (r : Rounding) (low high point : Nat) : Bool :=
  if r.closed then low ≤ point && point ≤ high else low < point && point < high

/-- The multiple of `10^k` next to the value that reads back as it, as a multiplier.  Of two the nearer one is taken,
and of two equally near the even one. -/
def onGrid? (r : Rounding) (k : Int) : Option Nat :=
  let up := Nat.pow 10 (-k).toNat
  let step := r.unit * Nat.pow 10 k.toNat
  let below := r.value * up / step
  let excess := r.value * up % step
  let fits (c : Nat) : Bool := r.holds (r.low * up) (r.high * up) (c * step)
  match below != 0 && fits below, fits (below + 1) with
  | true, true =>
    if 2 * excess < step then some below
    else if step < 2 * excess then some (below + 1)
    else some (if below % 2 = 0 then below else below + 1)
  | true, false => some below
  | false, true => some (below + 1)
  | false, false => none

/-- The first `k` from `start` on, within `tries` more, for which `10^(k+1)` exceeds the number. -/
def magnitudeUp (r : Rounding) : (tries start : Nat) → Nat
  | 0, k => k
  | tries + 1, k => if r.value < Nat.pow 10 (k + 1) * r.unit then k else magnitudeUp r tries (k + 1)

/-- The first `k` from `start` on, within `tries` more, for which `10^-k` is no more than the number. -/
def magnitudeDown (r : Rounding) : (tries start : Nat) → Nat
  | 0, k => k
  | tries + 1, k => if r.unit ≤ r.value * Nat.pow 10 k then k else magnitudeDown r tries (k + 1)

/-- The exponent of the power of ten at or below the number. -/
def magnitude (r : Rounding) : Int :=
  if r.unit ≤ r.value then Int.ofNat (r.magnitudeUp 309 0) else -Int.ofNat (r.magnitudeDown 325 1)

/-- The coarsest grid with a point that reads back, from `10^k` on down. -/
def search (r : Rounding) : (tries : Nat) → (k : Int) → Nat × Int
  | 0, k => (r.value, k)
  | tries + 1, k =>
    match r.onGrid? k with
    | some c => (c, k)
    | none => search r tries (k - 1)

/-- The digits of the shortest decimal, without zeros at the end, and the power of ten of the first. -/
def shortest (r : Rounding) : List Digit × Int :=
  let (c, k) := r.search 17 r.magnitude
  let ds := digitsOf c
  (dropTrailingZeros ds, k + ds.length - 1)

end Rounding

namespace Numeral

/-- The numeral of the digits `d.ddd · 10^e`: positional with a point for `-5 ≤ e ≤ 15`, and else with one
digit before the point and a power of ten. -/
def ofScientific (negative : Bool) (ds : List Digit) (e : Int) : Numeral :=
  if 0 ≤ e ∧ e ≤ 15 then
    let places := e.toNat + 1
    let fraction := ds.drop places
    { negative
      whole := ds.take places ++ List.replicate (places - ds.length) Digit.zero
      fraction := if fraction.isEmpty then [Digit.zero] else fraction }
  else if -5 ≤ e ∧ e < 0 then
    { negative, whole := [Digit.zero], fraction := List.replicate ((-e).toNat - 1) Digit.zero ++ ds }
  else { negative, whole := ds.take 1, fraction := ds.drop 1, exponent := some e }

/-- The numeral of a finite double: the shortest one that reads back. -/
def ofFloat (x : Float) : Numeral :=
  let bits : Nat := x.toBits.toNat
  let negative := bits >>> 63 == 1
  let e : Nat := (bits >>> 52) % (1 <<< 11)
  let f : Nat := bits % (1 <<< 52)
  if e = 0 ∧ f = 0 then { negative, whole := [Digit.zero], fraction := [Digit.zero] }
  else
    let r :=
      if e = 0 then Rounding.ofBinary f (-1074) false
      else Rounding.ofBinary (f + (1 <<< 52)) (Int.ofNat e - 1075) (f == 0 && 1 < e)
    ofScientific negative r.shortest.1 r.shortest.2

end Numeral

end Marionette
