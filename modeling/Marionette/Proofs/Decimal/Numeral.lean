import Marionette.Decimal.Shortest
import Mathlib.Algebra.Group.Nat.Defs
import Mathlib.Data.List.Basic

/-!
# Numerals are read as they were written

The text of a numeral is read back as that numeral when what follows it could not go on with it, and when
its whole digits have no zero in front.  The numerals that are written for natural numbers and for doubles
are of that kind: the digits of a positive number do not begin with a zero, and the shortest decimal of a
double is that of a positive number.

## Main definitions

* `Numeral.WellFormed` — a zero in front stands alone.
* `Numeral.stops` — a text that does not go on with a numeral.
* `Rounding.Fits` — a multiple of a power of ten in the interval of what rounds to a double.

## Main results

* `Numeral.scan_text_append` — a well-formed numeral is read as it was written.
* `Numeral.wellFormed_ofNat`, `Numeral.wellFormed_ofFloat` — what is written is well formed.
-/

namespace Marionette

/-! ### Leading digits -/

theorem Digit.toChar_ne_minus (d : Digit) : d.toChar ≠ '-' := by
  revert d
  decide

theorem head?_digitsOf_of_le {n : Nat} (h : 10 ≤ n) : (digitsOf n).head? = (digitsOf (n / 10)).head? := by
  rw [digitsOf, dif_neg (by omega), List.head?_append]
  rcases hd : (digitsOf (n / 10)).head? with _ | d
  · exact absurd (List.head?_eq_none_iff.mp hd) (digitsOf_ne_nil _)
  · rfl

/-- The digits of a positive number do not begin with a zero. -/
theorem head?_digitsOf_ne_zero {n : Nat} (h : 0 < n) : (digitsOf n).head? ≠ some Digit.zero := by
  induction n using Nat.strongRecOn with
  | ind n ih =>
    by_cases hn : n < 10
    · rw [digitsOf, dif_pos hn]
      simp [Digit.zero, Fin.ext_iff, Nat.ne_of_gt h]
    · rw [head?_digitsOf_of_le (by omega)]
      exact ih (n / 10) (by omega) (by omega)

/-- Leaving out the zeros at the end keeps a digit in front that is none. -/
theorem head?_dropTrailingZeros {d : Digit} (ds : List Digit) (hd : d ≠ Digit.zero) :
    (dropTrailingZeros (d :: ds)).head? = some d := by
  have hkeep : (ds.reverse ++ [d]).dropWhile (· == Digit.zero) =
      ds.reverse.dropWhile (· == Digit.zero) ++ [d] := by
    rw [List.dropWhile_append]
    split
    · next hnil => simp [hd, List.isEmpty_iff.mp hnil]
    · rfl
  rw [dropTrailingZeros, List.reverse_cons, hkeep]
  simp

namespace Numeral

/-! ### The parts of a text -/

/-- The text of the digits after the point. -/
def fractionText (ds : List Digit) : List Char := if ds.isEmpty then [] else '.' :: digitText ds

/-- The text of a power of ten, if there is one. -/
def powerText (e : Option Int) : List Char := e.elim [] exponentText

/-- The text of a numeral without its sign. -/
def unsignedText (n : Numeral) : List Char :=
  digitText n.whole ++ (fractionText n.fraction ++ powerText n.exponent)

theorem text_eq (n : Numeral) : n.text = (if n.negative then ['-'] else []) ++ n.unsignedText := by
  rcases h : n.exponent with _ | e <;>
    simp [text, unsignedText, fractionText, powerText, h, List.append_assoc]

/-- Whether a numeral could not go on with the text. -/
def stops : List Char → Bool
  | [] => true
  | c :: _ => (Digit.ofChar? c).isNone && c != '.' && c != 'e' && c != 'E'

/-- A numeral as it can be read: a zero in front of the whole digits stands alone. -/
structure WellFormed (n : Numeral) : Prop where
  ne_nil : n.whole ≠ []
  alone : n.whole.head? = some Digit.zero → n.whole.length = 1

variable {rest : List Char}

theorem startsWithDigit_of_stops (h : stops rest = true) : startsWithDigit rest = false := by
  cases rest with
  | nil => rfl
  | cons c cs =>
    simp only [stops, Bool.and_eq_true, Option.isNone_iff_eq_none] at h
    simp [startsWithDigit, h.1.1.1]

theorem startsWithDigit_power (h : stops rest = true) (e : Option Int) :
    startsWithDigit (powerText e ++ rest) = false := by
  cases e with
  | none => exact startsWithDigit_of_stops h
  | some e => rfl

theorem startsWithDigit_fraction (h : stops rest = true) (ds : List Digit) (e : Option Int) :
    startsWithDigit (fractionText ds ++ (powerText e ++ rest)) = false := by
  cases ds with
  | nil => exact startsWithDigit_power h e
  | cons d ds => rfl

/-! ### Reading the parts -/

theorem scanDigits_digitText {ds : List Digit} (hne : ds ≠ []) (h : startsWithDigit rest = false) :
    scanDigits (digitText ds ++ rest) = some (ds, rest) := by
  obtain ⟨d, ds, rfl⟩ := List.exists_cons_of_ne_nil hne
  rw [scanDigits, takeDigits_append _ h]

/-- The exponent of either sign is read as it was written. -/
theorem scanExponent_powerText (h : stops rest = true) (e : Option Int) :
    scanExponent (powerText e ++ rest) = some (e, rest) := by
  cases e with
  | none =>
    cases rest with
    | nil => rfl
    | cons c cs =>
      simp only [stops, Bool.and_eq_true, bne_iff_ne] at h
      rw [scanExponent.eq_def]
      split
      · next heq => exact absurd (List.cons.inj heq).1 h.1.2
      · next heq => exact absurd (List.cons.inj heq).1 h.2
      · rfl
  | some e =>
    have hdigits := scanDigits_digitText (digitsOf_ne_nil e.natAbs) (startsWithDigit_of_stops h)
    rcases Int.lt_or_le e 0 with hneg | hpos
    · have hvalue : -Int.ofNat e.natAbs = e := by
        rw [Int.ofNat_eq_natCast]
        omega
      simp only [powerText, Option.elim, exponentText, if_pos hneg, List.cons_append, scanExponent,
        scanSigned, hdigits]
      simp only [Option.map_some, ofDigits_digitsOf, hvalue]
    · have hvalue : Int.ofNat e.natAbs = e := by
        rw [Int.ofNat_eq_natCast]
        omega
      simp only [powerText, Option.elim, exponentText, if_neg (Int.not_lt.mpr hpos), List.cons_append,
        scanExponent, scanSigned, hdigits]
      simp only [Option.map_some, ofDigits_digitsOf, hvalue]

theorem scanFraction_fractionText (h : stops rest = true) (ds : List Digit) (e : Option Int) :
    scanFraction (fractionText ds ++ (powerText e ++ rest)) = some (ds, powerText e ++ rest) := by
  cases ds with
  | cons d ds => exact scanDigits_digitText (List.cons_ne_nil d ds) (startsWithDigit_power h e)
  | nil =>
    rw [show fractionText [] ++ (powerText e ++ rest) = powerText e ++ rest from rfl, scanFraction.eq_def]
    split
    · next cs heq =>
      cases e with
      | some e => exact absurd (List.cons.inj heq).1 (by decide)
      | none =>
        obtain rfl : rest = '.' :: cs := heq
        simp [stops] at h
    · rfl

theorem scanWhole_digitText {ds : List Digit} (hne : ds ≠ [])
    (halone : ds.head? = some Digit.zero → ds.length = 1) (h : startsWithDigit rest = false) :
    scanWhole (digitText ds ++ rest) = some (ds, rest) := by
  rw [scanWhole, takeDigits_append _ h]
  rcases ds with _ | ⟨d, _ | ⟨d', ds⟩⟩
  · exact absurd rfl hne
  · rfl
  · have hd : d ≠ Digit.zero := by
      rintro rfl
      simpa using halone rfl
    simp [hd]

theorem scanUnsigned_unsignedText {n : Numeral} (hn : n.WellFormed) (h : stops rest = true) :
    scanUnsigned n.negative (n.unsignedText ++ rest) = some (n, rest) := by
  simp only [scanUnsigned, unsignedText, List.append_assoc,
    scanWhole_digitText hn.ne_nil hn.alone (startsWithDigit_fraction h _ _),
    scanFraction_fractionText h, scanExponent_powerText h, Option.bind_eq_bind, Option.bind_some]
  rfl

/-- **A well-formed numeral is read as it was written**, when what follows does not go on with it. -/
theorem scan_text_append {n : Numeral} (hn : n.WellFormed) (h : stops rest = true) :
    scan (n.text ++ rest) = some (n, rest) := by
  have hscan := scanUnsigned_unsignedText hn h
  rw [text_eq]
  rcases hneg : n.negative with _ | _
  · rw [hneg] at hscan
    obtain ⟨d, ds, hds⟩ := List.exists_cons_of_ne_nil hn.ne_nil
    have hhead : n.unsignedText ++ rest =
        d.toChar :: (digitText ds ++ (fractionText n.fraction ++ powerText n.exponent) ++ rest) := by
      rw [unsignedText, hds]
      rfl
    have hsign : d.toChar ≠ '-' := d.toChar_ne_minus
    rw [if_neg Bool.false_ne_true, List.nil_append, hhead, scan.eq_def]
    split
    · next heq => exact absurd (List.cons.inj heq).1 hsign
    · rw [← hhead]
      exact hscan
  · rw [hneg] at hscan
    exact hscan

/-! ### What is written is well formed -/

theorem wellFormed_ofNat (n : Nat) : (ofNat n).WellFormed where
  ne_nil := digitsOf_ne_nil n
  alone := by
    intro h
    rcases Nat.eq_zero_or_pos n with rfl | hpos
    · simp [ofNat, digitsOf]
    · exact absurd h (head?_digitsOf_ne_zero hpos)

/-- However the point is placed, digits that begin with no zero make a numeral that can be read. -/
theorem wellFormed_ofScientific (negative : Bool) {ds : List Digit} {d : Digit}
    (hds : ds.head? = some d) (hd : d ≠ Digit.zero) (e : Int) :
    (ofScientific negative ds e).WellFormed := by
  obtain ⟨ds, rfl⟩ := List.head?_eq_some_iff.mp hds
  rw [ofScientific]
  split
  · exact ⟨by simp, fun h => absurd (Option.some.inj h) hd⟩
  · split
    · exact ⟨by simp, fun _ => rfl⟩
    · exact ⟨by simp, fun _ => rfl⟩

end Numeral

namespace Rounding

variable {r : Rounding}

/-- What the numerators are multiplied by for the grid of `10^k`, which is not whole for a negative `k`. -/
def up (k : Int) : Nat := 10 ^ (-k).toNat

/-- The distance of two points on the grid of `10^k`. -/
def step (r : Rounding) (k : Int) : Nat := r.unit * 10 ^ k.toNat

/-- The multiple of `10^k` is in the interval of what rounds to the value. -/
def Fits (r : Rounding) (k : Int) (c : Nat) : Prop :=
  r.holds (r.low * up k) (r.high * up k) (c * r.step k) = true

/-- What a grid gives for the value is in the interval, and it is the neighbour of the value at or below it,
unless that is zero, or the one above. -/
theorem onGrid?_cases {k : Int} {c : Nat} (h : r.onGrid? k = some c) :
    r.Fits k c ∧ (c = r.value * up k / r.step k ∧ c ≠ 0 ∨ c = r.value * up k / r.step k + 1) := by
  rw [onGrid?] at h
  dsimp only at h
  split at h
  · next hbelow habove =>
    obtain ⟨hne, hbelow⟩ := Bool.and_eq_true_iff.mp hbelow
    -- both neighbours are in the interval, and which one is taken does not matter
    have hboth : c = r.value * up k / r.step k ∨ c = r.value * up k / r.step k + 1 := by
      split at h
      · exact .inl (Option.some.inj h).symm
      · split at h
        · exact .inr (Option.some.inj h).symm
        · split at h
          · exact .inl (Option.some.inj h).symm
          · exact .inr (Option.some.inj h).symm
    rcases hboth with rfl | rfl
    · exact ⟨hbelow, .inl ⟨rfl, bne_iff_ne.mp hne⟩⟩
    · exact ⟨habove, .inr rfl⟩
  · next hbelow _ =>
    obtain ⟨hne, hbelow⟩ := Bool.and_eq_true_iff.mp hbelow
    cases h
    exact ⟨hbelow, .inl ⟨rfl, bne_iff_ne.mp hne⟩⟩
  · next habove =>
    cases h
    exact ⟨habove, .inr rfl⟩
  · cases h

/-- No grid gives zero for the value. -/
theorem pos_of_onGrid? {k : Int} {c : Nat} (h : r.onGrid? k = some c) : 0 < c := by
  obtain ⟨-, ⟨-, hne⟩ | rfl⟩ := onGrid?_cases h
  · exact Nat.pos_of_ne_zero hne
  · exact Nat.succ_pos _

theorem pos_of_search (hr : 0 < r.value) (tries : Nat) (k : Int) :
    0 < (r.search tries k).1 := by
  induction tries generalizing k with
  | zero => exact hr
  | succ tries ih =>
    rw [search]
    split
    · next hgrid => exact pos_of_onGrid? hgrid
    · exact ih (k - 1)

/-- The shortest decimal does not begin with a zero. -/
theorem exists_head?_shortest (hr : 0 < r.value) :
    ∃ d, r.shortest.1.head? = some d ∧ d ≠ Digit.zero := by
  have hpos := pos_of_search hr 17 r.magnitude
  obtain ⟨d, ds, hds⟩ := List.exists_cons_of_ne_nil (digitsOf_ne_nil (r.search 17 r.magnitude).1)
  have hd : d ≠ Digit.zero := by
    rintro rfl
    exact head?_digitsOf_ne_zero hpos (hds ▸ rfl)
  refine ⟨d, ?_, hd⟩
  change (dropTrailingZeros (digitsOf (r.search 17 r.magnitude).1)).head? = some d
  rw [hds]
  exact head?_dropTrailingZeros ds hd

theorem value_ofBinary_pos {m : Nat} (hm : 0 < m) (q : Int) (denseBelow : Bool) :
    0 < (ofBinary m q denseBelow).value := by
  rw [ofBinary, Nat.shiftLeft_eq]
  exact Nat.mul_pos (Nat.mul_pos (by omega) hm) (Nat.mul_pos Nat.one_pos (Nat.two_pow_pos _))

end Rounding

namespace Numeral

theorem wellFormed_shortest (negative : Bool) {r : Rounding} (hr : 0 < r.value) :
    (ofScientific negative r.shortest.1 r.shortest.2).WellFormed := by
  obtain ⟨d, hhead, hd⟩ := Rounding.exists_head?_shortest hr
  exact wellFormed_ofScientific negative hhead hd _

/-- **The numeral of a double is well formed.** -/
theorem wellFormed_ofFloat (x : Float) : (ofFloat x).WellFormed := by
  rw [ofFloat]
  dsimp only
  split
  · exact ⟨by simp, fun _ => rfl⟩
  · next hne =>
    refine wellFormed_shortest _ ?_
    split
    · next hzero => exact Rounding.value_ofBinary_pos (Nat.pos_of_ne_zero fun hf => hne ⟨hzero, hf⟩) _ _
    · exact Rounding.value_ofBinary_pos (Nat.add_pos_right _ (by decide)) _ _

end Numeral

end Marionette
