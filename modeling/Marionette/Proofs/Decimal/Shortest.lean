import Marionette.Proofs.Decimal.Numeral
import Marionette.Proofs.Decimal.Double
import Mathlib.Data.List.Induction
import Mathlib.Data.List.TakeWhile

/-!
# The decimal of a finite double can be read

A numeral is read as a double unless it is too large for one.  The decimal that is written for a finite
double never is.  It lies in the interval of the reals that round to the double, for all doubles but the
largest this interval ends by half way between the two largest ones, and up to there scaling does not
overflow.

That the decimal lies in the interval is not by itself clear from the search, which gives up after 17
grids and then takes the value itself.  But it begins on the grid of the power of ten at or below the
value, and the grid 16 steps below that one is finer than the interval, so that one of the two neighbours
of the value is in it.

## Main definitions

* `Rounding.Spans` — the greatest power of ten that is at most the value.
* `Rounding.Ample` — an interval that is wide enough for 17 digits.

## Main results

* `Rounding.Ample.exists_search` — the search ends with at most 17 digits, in the interval.
* `Rounding.ample_ofBinary` — the intervals of all doubles are wide enough.
* `Numeral.isSome_toFloat?_ofFloat` — the decimal of a finite double can be read.
-/

namespace Marionette

/-! ### Zeros -/

theorem ofDigits_append_zeros (ds : List Digit) (n : Nat) :
    ofDigits (ds ++ List.replicate n Digit.zero) = ofDigits ds * 10 ^ n := by
  induction n with
  | zero => simp
  | succ n ih =>
    rw [List.replicate_succ', ← List.append_assoc, ofDigits_concat, ih, Nat.pow_succ]
    simp only [Digit.zero, Fin.val_zero, Nat.add_zero]
    rw [Nat.mul_comm, Nat.mul_assoc]

theorem ofDigits_zeros_append (n : Nat) (ds : List Digit) :
    ofDigits (List.replicate n Digit.zero ++ ds) = ofDigits ds := by
  induction n with
  | zero => rfl
  | succ n ih => exact ih

theorem ofDigits_lt (ds : List Digit) : ofDigits ds < 10 ^ ds.length := by
  induction ds using List.reverseRecOn with
  | nil => decide
  | append_singleton ds d ih =>
    rw [ofDigits_concat, List.length_append, List.length_singleton, Nat.pow_succ]
    have := d.isLt
    omega

theorem exists_dropTrailingZeros (ds : List Digit) :
    ∃ n, ds = dropTrailingZeros ds ++ List.replicate n Digit.zero := by
  have hzeros : ds.reverse.takeWhile (· == Digit.zero) =
      List.replicate (ds.reverse.takeWhile (· == Digit.zero)).length Digit.zero := by
    refine List.eq_replicate_of_mem fun d hd => ?_
    exact eq_of_beq (List.mem_takeWhile_imp (p := (· == Digit.zero)) hd)
  refine ⟨(ds.reverse.takeWhile (· == Digit.zero)).length, ?_⟩
  have hsplit := congrArg List.reverse
    (List.takeWhile_append_dropWhile (p := (· == Digit.zero)) (l := ds.reverse))
  rw [List.reverse_append, List.reverse_reverse, hzeros, List.reverse_replicate] at hsplit
  exact hsplit.symm

theorem length_digitsOf_le {n k : Nat} (hk : 0 < k) (h : n < 10 ^ k) : (digitsOf n).length ≤ k := by
  induction k generalizing n with
  | zero => exact absurd hk (Nat.lt_irrefl 0)
  | succ k ih =>
    rw [digitsOf]
    split
    · exact Nat.succ_le_succ (Nat.zero_le _)
    · next hten =>
      have hpos : 0 < k := by
        rcases Nat.eq_zero_or_pos k with rfl | hpos
        · omega
        · exact hpos
      rw [List.length_append, List.length_singleton]
      refine Nat.succ_le_succ (ih hpos ?_)
      rw [Nat.pow_succ] at h
      omega

/-! ### Numerals that are not too large -/

namespace Significand

theorem le_ofDigitsFrom (start : Nat) (ds : List Digit) : start ≤ ofDigitsFrom start ds := by
  induction ds generalizing start with
  | nil => exact Nat.le_refl _
  | cons d ds ih =>
    have := ih (10 * start + d.val)
    change start ≤ ofDigitsFrom (10 * start + d.val) ds
    omega

theorem gather_eq {start : Nat} {ds : List Digit} (h : ofDigitsFrom start ds ≤ limit) :
    gather start ds = (ofDigitsFrom start ds, []) := by
  induction ds generalizing start with
  | nil => rfl
  | cons d ds ih =>
    rw [gather, if_pos (Nat.le_trans (le_ofDigitsFrom _ ds) h)]
    exact ih h

theorem ofDigitsFrom_append (start : Nat) (ds es : List Digit) :
    ofDigitsFrom start (ds ++ es) = ofDigitsFrom (ofDigitsFrom start ds) es := List.foldl_append

/-- Where all digits fit, all are gathered. -/
theorem ofNumeral_eq {n : Numeral} (h : ofDigits (n.whole ++ n.fraction) ≤ limit) :
    ofNumeral n =
      { digits := ofDigits (n.whole ++ n.fraction), exponent := n.exponent.getD 0 - n.fraction.length } := by
  rw [ofDigits, ofDigitsFrom_append] at h ⊢
  have hwhole := gather_eq (Nat.le_trans (le_ofDigitsFrom _ n.fraction) h)
  have hall := gather_eq h
  rw [ofNumeral, hwhole, hall]
  congr 1
  simp only [List.length_nil]
  omega

/-- What is scaled down is never too large. -/
theorem isSome_toFloat? {s : Significand} (h : 0 < s.digits → 0 ≤ s.exponent →
    s.exponent ≤ 308 ∧ (Float.ofNat s.digits * powerOfTen s.exponent.toNat).isInf = false) :
    s.toFloat?.isSome := by
  rw [toFloat?]
  dsimp only
  split
  · rfl
  · next hne =>
    rcases Int.lt_or_le s.exponent 0 with hneg | hpos
    · rw [if_neg (by omega), if_neg (by omega)]
      split
      · rfl
      · split <;> rfl
    · obtain ⟨hle, hinf⟩ := h (Nat.pos_of_ne_zero hne) hpos
      rw [if_neg (by omega), if_pos hpos, hinf]
      rfl

end Significand

namespace Numeral

/-- What is written with a point and without a power of ten is not scaled up. -/
theorem isSome_toFloat?_of_positional {n : Numeral}
    (hvalue : ofDigits (n.whole ++ n.fraction) ≤ Significand.limit) (hfraction : n.fraction ≠ [])
    (hexponent : n.exponent = none) : n.toFloat?.isSome := by
  rw [toFloat?, Option.isSome_map, Significand.ofNumeral_eq hvalue, hexponent]
  have hpos : 0 < n.fraction.length := List.length_pos_iff.mpr hfraction
  refine Significand.isSome_toFloat? fun _ hge => ?_
  simp only [Option.getD_none] at hge
  omega

/-- Only a decimal with a power of ten can be too large. -/
theorem isSome_toFloat?_ofScientific {negative : Bool} {ds : List Digit} {e k : Int} (hne : ds ≠ [])
    (hlength : ds.length ≤ 18) (hk : e - (ds.length - 1 : Nat) = k)
    (hlarge : 0 < ofDigits ds → 0 ≤ k →
      k ≤ 308 ∧ (Float.ofNat (ofDigits ds) * Significand.powerOfTen k.toNat).isInf = false) :
    (ofScientific negative ds e).toFloat?.isSome := by
  subst hk
  have hlimit : ∀ es : List Digit, es.length ≤ 18 → ofDigits es ≤ Significand.limit := fun es hes =>
    calc ofDigits es ≤ 10 ^ es.length := Nat.le_of_lt (ofDigits_lt es)
      _ ≤ 10 ^ 18 := Nat.pow_le_pow_right (by decide) hes
      _ ≤ Significand.limit := by decide
  rw [ofScientific]
  split
  · next hrange =>
    refine isSome_toFloat?_of_positional (hlimit _ ?_) ?_ rfl
    · have hwhole : (ds.take (e.toNat + 1) ++
          List.replicate (e.toNat + 1 - ds.length) Digit.zero).length = e.toNat + 1 := by
        rw [List.length_append, List.length_take, List.length_replicate]
        omega
      dsimp only
      rw [List.length_append, hwhole]
      split
      · rw [List.length_singleton]
        omega
      · rw [List.length_drop]
        omega
    · dsimp only
      split
      · exact List.cons_ne_nil _ _
      · next hne => exact fun hnil => hne (List.isEmpty_iff.mpr hnil)
  · split
    · next hrange =>
      refine isSome_toFloat?_of_positional ?_ ?_ rfl
      · change ofDigits (Digit.zero :: (List.replicate _ Digit.zero ++ ds)) ≤ _
        rw [← List.cons_append, ← List.replicate_succ, ofDigits_zeros_append]
        exact hlimit ds hlength
      · exact List.append_ne_nil_of_right_ne_nil _ hne
    · have hdigits : ds.take 1 ++ ds.drop 1 = ds := List.take_append_drop 1 ds
      rw [toFloat?, Option.isSome_map, Significand.ofNumeral_eq (by rw [hdigits]; exact hlimit ds hlength)]
      dsimp only
      rw [hdigits, List.length_drop, Option.getD_some]
      exact Significand.isSome_toFloat? hlarge

end Numeral

/-! ### Grids -/

namespace Rounding

variable {r : Rounding}

theorem up_pos (k : Int) : 0 < up k := Nat.pow_pos (by decide)

theorem step_mul_up {k k' : Int} {j : Nat} (hk : k = k' + j) :
    r.step k * up k' = r.step k' * 10 ^ j * up k := by
  simp only [step, up, Nat.mul_assoc, ← Nat.pow_add]
  congr 2
  omega

theorem step_mul_le {k k' : Int} {j : Nat} (hk : k = k' + j) (h : r.step k ≤ r.value * up k) :
    r.step k' * 10 ^ j ≤ r.value * up k' := by
  refine Nat.le_of_mul_le_mul_right ?_ (up_pos k)
  calc r.step k' * 10 ^ j * up k = r.step k * up k' := (step_mul_up hk).symm
    _ ≤ r.value * up k * up k' := Nat.mul_le_mul_right _ h
    _ = r.value * up k' * up k := Nat.mul_right_comm _ _ _

theorem lt_step_mul {k k' : Int} {j : Nat} (hk : k = k' + j) (h : r.value * up k < r.step k) :
    r.value * up k' < r.step k' * 10 ^ j := by
  refine Nat.lt_of_mul_lt_mul_right (a := up k) ?_
  calc r.value * up k' * up k = r.value * up k * up k' := Nat.mul_right_comm _ _ _
    _ < r.step k * up k' := Nat.mul_lt_mul_of_pos_right h (up_pos k')
    _ = r.step k' * 10 ^ j * up k := step_mul_up hk

/-! ### The magnitude -/

theorem magnitudeUp_spec (tries start : Nat) (hstart : 10 ^ start * r.unit ≤ r.value)
    (htries : r.value < 10 ^ (start + tries) * r.unit) :
    10 ^ r.magnitudeUp tries start * r.unit ≤ r.value ∧
      r.value < 10 ^ (r.magnitudeUp tries start + 1) * r.unit := by
  induction tries generalizing start with
  | zero => exact absurd htries (Nat.not_lt.mpr hstart)
  | succ tries ih =>
    rw [magnitudeUp]
    split
    · next hlt => exact ⟨hstart, hlt⟩
    · next hge => exact ih (start + 1) (Nat.not_lt.mp hge) (by rwa [Nat.add_right_comm])

theorem magnitudeDown_spec (tries start : Nat) (hstart : r.value * 10 ^ start < r.unit)
    (htries : r.unit ≤ r.value * 10 ^ (start + 1 + tries)) :
    ∃ k, r.magnitudeDown tries (start + 1) = k + 1 ∧
      r.value * 10 ^ k < r.unit ∧ r.unit ≤ r.value * 10 ^ (k + 1) := by
  induction tries generalizing start with
  | zero => exact ⟨start, rfl, hstart, htries⟩
  | succ tries ih =>
    rw [magnitudeDown]
    split
    · next hle => exact ⟨start, rfl, hstart, hle⟩
    · next hlt => exact ih (start + 1) (Nat.not_le.mp hlt) (by rwa [Nat.add_right_comm])

/-- The power of ten `10^k` is the greatest that is at most the value. -/
structure Spans (r : Rounding) (k : Int) : Prop where
  le : r.step k ≤ r.value * up k
  lt : r.value * up (k + 1) < r.step (k + 1)

theorem spans_natCast {k : Nat} (hle : 10 ^ k * r.unit ≤ r.value) (hlt : r.value < 10 ^ (k + 1) * r.unit) :
    r.Spans k := by
  have hup : (-(k : Int)).toNat = 0 := by omega
  have hup' : (-((k : Int) + 1)).toNat = 0 := by omega
  have hsucc : ((k : Int) + 1).toNat = k + 1 := by omega
  refine ⟨?_, ?_⟩
  · rwa [step, up, hup, Int.toNat_natCast, Nat.pow_zero, Nat.mul_one, Nat.mul_comm]
  · rwa [step, up, hup', hsucc, Nat.pow_zero, Nat.mul_one, Nat.mul_comm r.unit]

theorem spans_neg {k : Nat} (hlt : r.value * 10 ^ k < r.unit) (hle : r.unit ≤ r.value * 10 ^ (k + 1)) :
    r.Spans (-(k + 1 : Nat)) := by
  have hup : (-(-((k + 1 : Nat) : Int))).toNat = k + 1 := by omega
  have hstep : (-((k + 1 : Nat) : Int)).toNat = 0 := by omega
  have hup' : (-(-((k + 1 : Nat) : Int) + 1)).toNat = k := by omega
  have hstep' : (-((k + 1 : Nat) : Int) + 1).toNat = 0 := by omega
  refine ⟨?_, ?_⟩
  · rwa [step, up, hup, hstep, Nat.pow_zero, Nat.mul_one]
  · rwa [step, up, hup', hstep', Nat.pow_zero, Nat.mul_one]

theorem spans_magnitude (hhigh : r.value < 10 ^ (0 + 309) * r.unit)
    (hlow : r.unit ≤ r.value * 10 ^ (0 + 1 + 325)) : r.Spans r.magnitude := by
  rw [magnitude]
  split
  · next hle =>
    have hspec := magnitudeUp_spec (r := r) 309 0 (by rwa [Nat.pow_zero, Nat.one_mul])
    obtain ⟨hmost, hlt⟩ := hspec hhigh
    exact spans_natCast hmost hlt
  · next hgt =>
    have hspec := magnitudeDown_spec (r := r) 325 0 (by rwa [Nat.pow_zero, Nat.mul_one, ← Nat.not_le])
    obtain ⟨k, heq, hlt, hle⟩ := hspec hlow
    rw [heq]
    exact spans_neg hlt hle

/-! ### The search -/

/-- The search finds something when some grid it tries has something. -/
theorem exists_search {tries : Nat} {k : Int} (h : ∃ j < tries, (r.onGrid? (k - j)).isSome) :
    ∃ j < tries, ∃ c, r.search tries k = (c, k - j) ∧ r.onGrid? (k - j) = some c := by
  induction tries generalizing k with
  | zero =>
    obtain ⟨j, hj, -⟩ := h
    exact absurd hj (Nat.not_lt_zero j)
  | succ tries ih =>
    rw [search]
    rcases hgrid : r.onGrid? k with _ | c
    · obtain ⟨j, hj, hsome⟩ := h
      rcases j with _ | j
      · simp [hgrid] at hsome
      · have hshift : ∀ j : Nat, k - 1 - j = k - (j + 1 : Nat) := by omega
        obtain ⟨j', hj', c, hsearch, hc⟩ :=
          ih (k := k - 1) ⟨j, Nat.lt_of_succ_lt_succ hj, by rwa [hshift]⟩
        rw [hshift] at hsearch hc
        exact ⟨j' + 1, Nat.succ_lt_succ hj', c, hsearch, hc⟩
    · exact ⟨0, Nat.succ_pos _, c, by simp, by simpa using hgrid⟩

theorem holds_iff {low high point : Nat} :
    r.holds low high point = true ↔
      if r.closed then low ≤ point ∧ point ≤ high else low < point ∧ point < high := by
  rw [holds]
  split <;> simp

theorem isSome_onGrid? {k : Int}
    (h : 0 < r.value * up k / r.step k ∧ r.Fits k (r.value * up k / r.step k) ∨
      r.Fits k (r.value * up k / r.step k + 1)) : (r.onGrid? k).isSome := by
  rw [onGrid?]
  dsimp only
  split
  · split
    · rfl
    · split <;> rfl
  · rfl
  · rfl
  · next hbelow habove =>
    exfalso
    rcases h with ⟨hpos, hfits⟩ | hfits
    · exact Bool.eq_false_iff.mp hbelow
        (Bool.and_eq_true_iff.mpr ⟨bne_iff_ne.mpr (Nat.ne_of_gt hpos), hfits⟩)
    · exact Bool.eq_false_iff.mp habove hfits

/-- On a grid that is finer than the interval one of the neighbours of the value is in the interval. -/
theorem fits_or_fits {k : Int} (hlow : r.low ≤ r.value) (hhigh : r.value < r.high) (hstep : 0 < r.step k)
    (hwide : r.step k < (r.high - r.low) * up k) :
    r.Fits k (r.value * up k / r.step k) ∨ r.Fits k (r.value * up k / r.step k + 1) := by
  have hle : r.low * up k ≤ r.value * up k := Nat.mul_le_mul_right _ hlow
  have hlt : r.value * up k < r.high * up k := Nat.mul_lt_mul_of_pos_right hhigh (up_pos k)
  have hbelow : r.value * up k / r.step k * r.step k ≤ r.value * up k := Nat.div_mul_le_self _ _
  have habove : r.value * up k < (r.value * up k / r.step k + 1) * r.step k := by
    rw [Nat.mul_comm (_ + 1)]
    exact Nat.lt_mul_div_succ _ hstep
  rw [Nat.sub_mul] at hwide
  rw [Nat.succ_mul] at habove
  rw [Fits, Fits, holds_iff, holds_iff, Nat.succ_mul]
  rcases Nat.lt_or_ge (r.low * up k) (r.value * up k / r.step k * r.step k) with hin | hout
  · left
    split <;> omega
  · right
    split <;> omega

/-- A value with an interval that is wide enough for 17 digits. -/
structure Ample (r : Rounding) : Prop where
  low_le : r.low ≤ r.value
  lt_high : r.value < r.high
  unit_pos : 0 < r.unit
  spans : r.Spans r.magnitude
  wide : r.value < 10 ^ 16 * (r.high - r.low)

theorem step_pos (hunit : 0 < r.unit) (k : Int) : 0 < r.step k := Nat.mul_pos hunit (Nat.pow_pos (by decide))

theorem Ample.isSome_onGrid? (h : r.Ample) : (r.onGrid? (r.magnitude - 16)).isSome := by
  have hpos := step_pos h.unit_pos (r.magnitude - 16)
  have hstep : r.step (r.magnitude - 16) * 10 ^ 16 ≤ r.value * up (r.magnitude - 16) :=
    step_mul_le (by omega) h.spans.le
  have hone : r.step (r.magnitude - 16) ≤ r.value * up (r.magnitude - 16) :=
    Nat.le_trans (Nat.le_mul_of_pos_right _ (by decide)) hstep
  have hwide : r.step (r.magnitude - 16) < (r.high - r.low) * up (r.magnitude - 16) := by
    refine Nat.lt_of_mul_lt_mul_right (a := 10 ^ 16) (Nat.lt_of_le_of_lt hstep ?_)
    calc r.value * up (r.magnitude - 16) < 10 ^ 16 * (r.high - r.low) * up (r.magnitude - 16) :=
          Nat.mul_lt_mul_of_pos_right h.wide (up_pos _)
      _ = (r.high - r.low) * up (r.magnitude - 16) * 10 ^ 16 := by rw [Nat.mul_assoc, Nat.mul_comm]
  refine Rounding.isSome_onGrid? ?_
  rcases fits_or_fits h.low_le h.lt_high hpos hwide with hfits | hfits
  · exact .inl ⟨Nat.div_pos hone hpos, hfits⟩
  · exact .inr hfits

/-- **The search ends**, with at most 17 digits and a decimal in the interval. -/
theorem Ample.exists_search (h : r.Ample) :
    ∃ k c, r.search 17 r.magnitude = (c, k) ∧ r.Fits k c ∧ 0 < c ∧ c ≤ 10 ^ 17 := by
  obtain ⟨j, hj, c, hsearch, hgrid⟩ :=
    Rounding.exists_search ⟨16, show 16 < 17 by decide, h.isSome_onGrid?⟩
  obtain ⟨hfits, hneighbour⟩ := onGrid?_cases hgrid
  have hle : c ≤ r.value * up (r.magnitude - j) / r.step (r.magnitude - j) + 1 := by omega
  refine ⟨_, c, hsearch, hfits, pos_of_onGrid? hgrid, Nat.le_trans hle ?_⟩
  have hbound : r.value * up (r.magnitude - j) < r.step (r.magnitude - j) * 10 ^ (j + 1) :=
    lt_step_mul (by omega) h.spans.lt
  calc r.value * up (r.magnitude - j) / r.step (r.magnitude - j) + 1
      ≤ 10 ^ (j + 1) := Nat.div_lt_of_lt_mul hbound
    _ ≤ 10 ^ 17 := Nat.pow_le_pow_right (by decide) hj

/-- All doubles are within the powers of ten that are tried. -/
theorem spans_ofBinary {m : Nat} {q : Int} (hm : 0 < m) (hlt : m < 2 ^ 53) (hq : -1074 ≤ q)
    (hq' : q ≤ 971) (denseBelow : Bool) :
    (ofBinary m q denseBelow).Spans (ofBinary m q denseBelow).magnitude := by
  have hvalue : (ofBinary m q denseBelow).value = 4 * (m * 2 ^ q.toNat) := by
    simp only [ofBinary, Nat.shiftLeft_eq, Nat.one_mul, Nat.mul_assoc]
  have hunit : (ofBinary m q denseBelow).unit = 4 * 2 ^ (-q).toNat := by
    simp only [ofBinary, Nat.shiftLeft_eq]
  apply spans_magnitude
  · rw [hvalue, hunit]
    have hten : 2 ^ 53 * 2 ^ 971 ≤ 10 ^ (0 + 309) := by decide +kernel
    have hmost : ∀ n, q.toNat ≤ n → m * 2 ^ q.toNat < 2 ^ 53 * 2 ^ n := fun n hn =>
      Nat.mul_lt_mul_of_lt_of_le hlt (Nat.pow_le_pow_right (by decide) hn) (Nat.two_pow_pos n)
    have hlt := Nat.lt_of_lt_of_le (hmost 971 (by omega)) hten
    generalize 10 ^ (0 + 309) = ten at hlt ⊢
    calc 4 * (m * 2 ^ q.toNat) < 4 * ten := Nat.mul_lt_mul_of_pos_left hlt (by decide)
      _ = ten * (4 * 1) := Nat.mul_comm _ _
      _ ≤ ten * (4 * 2 ^ (-q).toNat) := Nat.mul_le_mul_left _ (Nat.mul_le_mul_left _ (Nat.two_pow_pos _))
  · rw [hvalue, hunit]
    have hten : 2 ^ 1074 ≤ 10 ^ (0 + 1 + 325) := by decide +kernel
    have hleast : ∀ n, (-q).toNat ≤ n → 2 ^ (-q).toNat ≤ 2 ^ n := fun n hn =>
      Nat.pow_le_pow_right (by decide) hn
    have hle := Nat.le_trans (hleast 1074 (by omega)) hten
    generalize 10 ^ (0 + 1 + 325) = ten at hle ⊢
    calc 4 * 2 ^ (-q).toNat ≤ 4 * (1 * 1) * ten := Nat.mul_le_mul_left 4 hle
      _ ≤ 4 * (m * 2 ^ q.toNat) * ten :=
          Nat.mul_le_mul_right _ (Nat.mul_le_mul_left _ (Nat.mul_le_mul hm (Nat.two_pow_pos _)))

/-- **The intervals of all doubles are wide enough for 17 digits.** -/
theorem ample_ofBinary {m : Nat} {q : Int} {denseBelow : Bool} (hm : 0 < m) (hlt : m < 2 ^ 53)
    (hdense : denseBelow = true → m = 2 ^ 52) (hq : -1074 ≤ q) (hq' : q ≤ 971) :
    (ofBinary m q denseBelow).Ample where
  low_le := Nat.mul_le_mul_right _ (Nat.sub_le _ _)
  lt_high := by
    refine Nat.mul_lt_mul_of_pos_right (Nat.lt_add_of_pos_right (by decide)) ?_
    rw [Nat.shiftLeft_eq, Nat.one_mul]
    exact Nat.two_pow_pos _
  unit_pos := by
    simp only [ofBinary, Nat.shiftLeft_eq]
    exact Nat.mul_pos (by decide) (Nat.two_pow_pos _)
  spans := spans_ofBinary hm hlt hq hq' denseBelow
  wide := by
    have hpos : 0 < 2 ^ q.toNat := Nat.two_pow_pos _
    simp only [ofBinary, Nat.shiftLeft_eq, Nat.one_mul]
    rw [← Nat.sub_mul, ← Nat.mul_assoc]
    refine Nat.mul_lt_mul_of_pos_right ?_ hpos
    cases denseBelow with
    | false =>
      simp only [Bool.false_eq_true, if_false]
      omega
    | true =>
      have := hdense rfl
      simp only [if_true]
      omega

/-! ### The decimal -/

theorem le_high_of_fits {k : Int} {c : Nat} (h : r.Fits k c) : c * r.step k ≤ r.high * up k := by
  rw [Fits, holds_iff] at h
  split at h
  · exact h.2
  · exact Nat.le_of_lt h.2

/-- A power of ten on the grid of `10^k`. -/
theorem pow_mul_eq {k : Int} {n : Nat} (h : 0 ≤ k + n) :
    10 ^ n * 10 ^ k.toNat = 10 ^ (k + n).toNat * up k := by
  rw [up, ← Nat.pow_add, ← Nat.pow_add]
  congr 1
  omega

/-- A whole number that is in the interval is no more than what the interval is below. -/
theorem mul_pow_le_of_fits {k : Int} {c d n bound : Nat} (hunit : 0 < r.unit)
    (hhigh : r.high ≤ r.unit * bound) (hfits : r.Fits k c) (hc : c = d * 10 ^ n) (hk : 0 ≤ k + n) :
    d * 10 ^ (k + n).toNat ≤ bound := by
  refine Nat.le_of_mul_le_mul_left (Nat.le_of_mul_le_mul_right ?_ (up_pos k)) hunit
  calc r.unit * (d * 10 ^ (k + n).toNat) * up k
      = r.unit * (d * (10 ^ (k + n).toNat * up k)) := by simp only [Nat.mul_assoc]
    _ = r.unit * (d * (10 ^ n * 10 ^ k.toNat)) := by rw [pow_mul_eq hk]
    _ = c * r.step k := by rw [hc, step]; ac_rfl
    _ ≤ r.high * up k := le_high_of_fits hfits
    _ ≤ r.unit * bound * up k := Nat.mul_le_mul_right _ hhigh

/-- Without the zeros at its end the decimal has fewer digits and a greater power of ten. -/
theorem Ample.isSome_toFloat?_shortest (h : r.Ample) (hhigh : r.high ≤ r.unit * Double.lastHalfway)
    (negative : Bool) : (Numeral.ofScientific negative r.shortest.1 r.shortest.2).toFloat?.isSome := by
  obtain ⟨k, c, hsearch, hfits, hpos, hle⟩ := h.exists_search
  obtain ⟨n, hzeros⟩ := exists_dropTrailingZeros (digitsOf c)
  have hshortest : r.shortest = (dropTrailingZeros (digitsOf c), k + (digitsOf c).length - 1) := by
    rw [shortest, hsearch]
  have hlength : (digitsOf c).length ≤ 18 :=
    length_digitsOf_le (by decide) (Nat.lt_of_le_of_lt hle (by decide))
  have hc : c = ofDigits (dropTrailingZeros (digitsOf c)) * 10 ^ n := by
    rw [← ofDigits_append_zeros, ← hzeros, ofDigits_digitsOf]
  have hcount := congrArg List.length hzeros
  rw [List.length_append, List.length_replicate] at hcount
  rw [hshortest]
  dsimp only
  generalize dropTrailingZeros (digitsOf c) = ds at hc hcount
  have hne : ds ≠ [] := by
    rintro rfl
    rw [hc, show ofDigits [] = 0 from rfl, Nat.zero_mul] at hpos
    exact absurd hpos (Nat.lt_irrefl 0)
  have hone : 0 < ds.length := List.length_pos_iff.mpr hne
  have hexponent : k + (digitsOf c).length - 1 - (ds.length - 1 : Nat) = k + n := by omega
  refine Numeral.isSome_toFloat?_ofScientific hne (by omega) hexponent fun hds hk => ?_
  have hdigits : ofDigits ds ≤ 10 ^ 17 :=
    Nat.le_trans (hc ▸ Nat.le_mul_of_pos_right _ (Nat.pow_pos (by decide))) hle
  have hbound := mul_pow_le_of_fits h.unit_pos hhigh hfits hc hk
  obtain ⟨hmost, hinf⟩ := Double.isInf_ofNat_mul_powerOfTen hds hdigits hbound
  exact ⟨by omega, hinf⟩

/-- The intervals of all doubles but the largest end by the last half way. -/
theorem high_ofBinary_le {m : Nat} {q : Int} (denseBelow : Bool) (hlt : m < 2 ^ 53) (hq : q ≤ 971)
    (hne : q = 971 → m ≠ 2 ^ 53 - 1) :
    (ofBinary m q denseBelow).high ≤ (ofBinary m q denseBelow).unit * Double.lastHalfway := by
  have hunit : 4 * Double.lastHalfway ≤ (ofBinary m q denseBelow).unit * Double.lastHalfway := by
    refine Nat.mul_le_mul_right _ ?_
    simp only [ofBinary, Nat.shiftLeft_eq]
    exact Nat.le_mul_of_pos_right _ (Nat.two_pow_pos _)
  refine Nat.le_trans ?_ hunit
  simp only [ofBinary, Nat.shiftLeft_eq, Nat.one_mul]
  have hbelow : ∀ n, q.toNat ≤ n → (4 * m + 2) * 2 ^ q.toNat ≤ 2 ^ 55 * 2 ^ n := fun n hn =>
    Nat.mul_le_mul (by omega) (Nat.pow_le_pow_right (by decide) hn)
  have hlast : ∀ n, q.toNat = n → m ≤ 2 ^ 53 - 2 →
      (4 * m + 2) * 2 ^ q.toNat ≤ (2 ^ 55 - 6) * 2 ^ n := fun n hn hm => by
    rw [hn]
    exact Nat.mul_le_mul_right _ (by omega)
  rcases Int.lt_or_eq_of_le hq with hq | hq
  · exact Nat.le_trans (hbelow 970 (by omega)) (by decide +kernel)
  · have := hne hq
    exact Nat.le_trans (hlast 971 (by omega) (by omega)) (by decide +kernel)

end Rounding

namespace Numeral

/-- The decimal of a binary number can be read, when the number is a double. -/
theorem isSome_toFloat?_ofBinary (negative : Bool) {m : Nat} {q : Int} {denseBelow : Bool} (hm : 0 < m)
    (hlt : m < 2 ^ 53) (hdense : denseBelow = true → m = 2 ^ 52) (hq : -1074 ≤ q) (hq' : q ≤ 971) :
    (ofScientific negative (Rounding.ofBinary m q denseBelow).shortest.1
      (Rounding.ofBinary m q denseBelow).shortest.2).toFloat?.isSome := by
  by_cases hlargest : q = 971 ∧ m = 2 ^ 53 - 1
  · obtain ⟨rfl, rfl⟩ := hlargest
    cases denseBelow with
    | true => exact absurd (hdense rfl) (by decide)
    | false => cases negative <;> decide +kernel
  · exact (Rounding.ample_ofBinary hm hlt hdense hq hq').isSome_toFloat?_shortest
      (Rounding.high_ofBinary_le denseBelow hlt hq' fun h => fun hm => hlargest ⟨h, hm⟩) negative

/-- **The decimal that is written for a finite double can be read.** -/
theorem isSome_toFloat?_ofFloat {x : Float} (h : x.isFinite = true) : (ofFloat x).toFloat?.isSome := by
  have hexponent : (x.toBits.toNat >>> 52) % (1 <<< 11) < 2047 := Double.exponent_lt_of_isFinite h
  have hfraction : x.toBits.toNat % (1 <<< 52) < 2 ^ 52 := Nat.mod_lt _ (by decide)
  rw [ofFloat]
  dsimp only
  generalize (x.toBits.toNat >>> 52) % (1 <<< 11) = e at *
  generalize x.toBits.toNat % (1 <<< 52) = f at *
  split
  · exact isSome_toFloat?_of_positional (show ofDigits [Digit.zero, Digit.zero] ≤ _ by decide)
      (List.cons_ne_nil _ _) rfl
  · next hne =>
    rcases Nat.eq_zero_or_pos e with rfl | hpos
    · simp only [if_true]
      have hf : 0 < f := Nat.pos_of_ne_zero fun hf => hne ⟨rfl, hf⟩
      exact isSome_toFloat?_ofBinary _ hf (by omega) (by simp) (by omega) (by omega)
    · simp only [if_neg (Nat.ne_of_gt hpos)]
      have hdense : (f == 0 && decide (1 < e)) = true → f + 1 <<< 52 = 2 ^ 52 := by
        simp only [Bool.and_eq_true, beq_iff_eq]
        rintro ⟨rfl, -⟩
        rfl
      have hlt : f + 1 <<< 52 < 2 ^ 53 := by omega
      have hle : Int.ofNat e - 1075 ≤ 971 := by
        rw [Int.ofNat_eq_natCast]
        omega
      have hge : -1074 ≤ Int.ofNat e - 1075 := by
        rw [Int.ofNat_eq_natCast]
        omega
      exact isSome_toFloat?_ofBinary _ (Nat.add_pos_right _ (by decide)) hlt hdense hge hle

end Numeral

end Marionette
