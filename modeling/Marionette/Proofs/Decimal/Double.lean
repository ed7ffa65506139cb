import Marionette.Decimal.Scaled
import Mathlib

/-!
# Products of doubles that stay finite

A product of doubles is rounded, and rounding may go up.  But it does not pass a double: what is at most a
double `b` is rounded to at most `b`.  So a bound that is a double itself is kept by every rounding on the
way, by that of a significand, by that of a power of ten and by that of their product, and the product is
finite when the product of the bounds is at most the largest double.

The bounds are about numbers that are at least one, which are normal doubles.

## Main definitions

* `Double.IsDouble` — a natural number with 53 binary digits, but for zeros at the end.
* `Double.AtMost` — a number from one up to a bound.
* `Double.largest`, `Double.lastHalfway` — the largest double, and half way to it from the one before.

## Main results

* `Double.atMost_round` — what is at most a double is rounded to at most that.
* `Double.AtMost.mul`, `Double.atMost_ofNat`, `Double.atMost_powerOfTen` — bounds of the operations.
* `Double.isInf_ofNat_mul_powerOfTen` — a decimal up to the last half way is scaled to a finite double.
-/

namespace Marionette

open Float.Model Float.Model.UnpackedFloat

namespace Double

/-! ### Rounding -/

theorem mantissa_shiftRight (em : ExtendedMantissa) (k : Nat) : (em >>> k).mantissa = em.mantissa / 2 ^ k := by
  induction k with
  | zero => exact (Nat.div_one _).symm
  | succ k ih =>
    change (em >>> k).mantissa / 2 = _
    rw [ih, Nat.div_div_eq_div_mul, Nat.pow_succ]

/-- Digits that are zero leave nothing to round when they are shifted out. -/
theorem shiftRight_of_dvd {m k : Nat} (h : 2 ^ k ∣ m) :
    (⟨m, false, false⟩ : ExtendedMantissa) >>> k = ⟨m / 2 ^ k, false, false⟩ := by
  induction k with
  | zero =>
    rw [Nat.pow_zero, Nat.div_one]
    rfl
  | succ k ih =>
    have hdvd : 2 ^ k ∣ m := Nat.dvd_trans (Nat.pow_dvd_pow 2 (Nat.le_succ k)) h
    obtain ⟨c, rfl⟩ := h
    have heven : 2 ^ (k + 1) * c / 2 ^ k = 2 * c := by
      rw [Nat.pow_succ, Nat.mul_assoc, Nat.mul_div_cancel_left _ (Nat.two_pow_pos k)]
    change ((⟨_, false, false⟩ : ExtendedMantissa) >>> k).shiftRightOne = _
    rw [ih hdvd, heven, Nat.mul_div_cancel_left _ (Nat.two_pow_pos _)]
    simp [ExtendedMantissa.shiftRightOne]

theorem roundedMantissa_eq_or (em : ExtendedMantissa) :
    em.roundedMantissa = em.mantissa ∨ em.roundedMantissa = em.mantissa + 1 := by
  obtain ⟨m, roundBit, stickyBit⟩ := em
  have hparity := Nat.mod_two_eq_zero_or_one m
  cases roundBit <;> cases stickyBit <;>
    simp [ExtendedMantissa.roundedMantissa, ExtendedMantissa.accuracy, Accuracy.roundToNearestEven, hparity]

theorem targetExponent_eq (m : Nat) (e : Int) :
    Format.binary64.targetExponent (totalExponent m e) = max (m.log2 + e - 52) (-1074) := by
  have hbits : (Format.binary64.mantissaBits : Int) = 53 := rfl
  have hmin : Format.binary64.minExponent = -1074 := rfl
  rw [Format.targetExponent, totalExponent, hbits, hmin]
  congr 1
  omega

/-- Of a long mantissa all but 53 digits are shifted out. -/
theorem shiftToTargetExponent_eq {m : Nat} {e : Int} (accuracy : Accuracy) (hm : 52 ≤ m.log2)
    (he : -1074 ≤ m.log2 + e - 52) : shiftToTargetExponent Format.binary64 m e accuracy =
      (ExtendedMantissa.ofMantissaAndAccuracy m accuracy >>> (m.log2 - 52), e + (m.log2 - 52 : Nat)) := by
  have hshift : ((m.log2 : Int) + e - 52 - e).toNat = m.log2 - 52 := by omega
  rw [shiftToTargetExponent, targetExponent_eq, Int.max_eq_left he, shiftToExponent]
  simp only [hshift]

theorem log2_eq {m : Nat} (hle : 2 ^ 52 ≤ m) (hlt : m < 2 ^ 53) : m.log2 = 52 :=
  (Nat.log2_eq_iff (by omega)).mpr ⟨hle, hlt⟩

theorem shiftToTargetExponent_of_lt {m : Nat} {e : Int} (hle : 2 ^ 52 ≤ m) (hlt : m < 2 ^ 53)
    (he : -1074 ≤ e) : shiftToTargetExponent Format.binary64 m e .exact = (⟨m, false, false⟩, e) := by
  have hlog := log2_eq hle hlt
  rw [shiftToTargetExponent_eq _ (by omega) (by omega), hlog]
  exact Prod.ext rfl (Int.add_zero e)

theorem shiftToTargetExponent_two_pow {e : Int} (he : -1074 ≤ e) :
    shiftToTargetExponent Format.binary64 (2 ^ 53) e .exact = (⟨2 ^ 52, false, false⟩, e + 1) := by
  have hlog : (2 ^ 53).log2 = 53 := Nat.log2_two_pow
  rw [shiftToTargetExponent_eq _ (by omega) (by omega), hlog]
  exact Prod.ext (shiftRight_of_dvd (by decide)) rfl

/-- The first 53 digits of a number that has so many. -/
theorem log2_div_pow {m : Nat} (hm : 52 ≤ m.log2) :
    2 ^ 52 ≤ m / 2 ^ (m.log2 - 52) ∧ m / 2 ^ (m.log2 - 52) < 2 ^ 53 := by
  have hne : m ≠ 0 := by
    rintro rfl
    simp at hm
  constructor
  · rw [Nat.le_div_iff_mul_le (Nat.two_pow_pos _), ← Nat.pow_add, Nat.add_sub_cancel' hm]
    exact Nat.log2_self_le hne
  · rw [Nat.div_lt_iff_lt_mul (Nat.two_pow_pos _), ← Nat.pow_add,
      show 53 + (m.log2 - 52) = m.log2 + 1 by omega]
    exact Nat.lt_log2_self

/-- A number with at least 53 digits is rounded to the first 53 or, if others follow that are not all zero,
perhaps to the next number with 53 digits. -/
theorem roundWithAccuracy_eq (s : Sign) {m : Nat} {e : Int} (hm : 52 ≤ m.log2)
    (he : -1074 ≤ m.log2 + e - 52) :
    ∃ n, (n = m / 2 ^ (m.log2 - 52) ∨ n = m / 2 ^ (m.log2 - 52) + 1 ∧ ¬ 2 ^ (m.log2 - 52) ∣ m) ∧
      ((∃ h, n < 2 ^ 53 ∧ roundWithAccuracy Format.binary64 s m e .exact =
          .finite s n (e + (m.log2 - 52 : Nat)) h) ∨
        ∃ h, n = 2 ^ 53 ∧ roundWithAccuracy Format.binary64 s m e .exact =
          .finite s (2 ^ 52) (e + (m.log2 - 52 : Nat) + 1) h) := by
  obtain ⟨hle, hlt⟩ := log2_div_pow hm
  let em := ExtendedMantissa.ofMantissaAndAccuracy m .exact >>> (m.log2 - 52)
  have hmantissa : em.mantissa = m / 2 ^ (m.log2 - 52) := mantissa_shiftRight _ _
  refine ⟨em.roundedMantissa, ?_, ?_⟩
  · rcases roundedMantissa_eq_or em with h | h
    · exact .inl (h.trans hmantissa)
    · refine .inr ⟨h.trans (congrArg (· + 1) hmantissa), fun hdvd => ?_⟩
      have hexact : em = ⟨m / 2 ^ (m.log2 - 52), false, false⟩ := shiftRight_of_dvd hdvd
      rw [hexact] at h
      simp [ExtendedMantissa.roundedMantissa, ExtendedMantissa.accuracy, Accuracy.roundToNearestEven] at h
  · have hrounded : 2 ^ 52 ≤ em.roundedMantissa ∧ em.roundedMantissa ≤ 2 ^ 53 := by
      rcases roundedMantissa_eq_or em with h | h <;> rw [h, hmantissa] <;> omega
    -- what was rounded is shifted once more, for the case that rounding gave it one more digit
    have hround : roundWithAccuracy Format.binary64 s m e .exact =
        (let r := shiftToTargetExponent Format.binary64 em.roundedMantissa (e + (m.log2 - 52 : Nat)) .exact
        if h : r.1.mantissa = 0 then .zero s else .finite s r.1.mantissa r.2 (Nat.pos_of_ne_zero h)) := by
      rw [roundWithAccuracy, shiftToTargetExponent_eq _ hm he]
    rw [hround]
    rcases Nat.lt_or_eq_of_le hrounded.2 with hn | hn
    · rw [shiftToTargetExponent_of_lt hrounded.1 hn (by omega)]
      exact .inl ⟨by omega, hn, dif_neg (by dsimp only; omega)⟩
    · rw [hn, shiftToTargetExponent_two_pow (by omega)]
      exact .inr ⟨by decide, rfl, dif_neg (show 2 ^ 52 ≠ 0 by decide)⟩

/-! ### Bounds -/

/-- All binary digits of the number but the first 53 are zero. -/
def IsDouble (n : Nat) : Prop := 2 ^ n.log2 ∣ n * 2 ^ 52

instance (n : Nat) : Decidable (IsDouble n) := inferInstanceAs (Decidable (2 ^ n.log2 ∣ n * 2 ^ 52))

theorem IsDouble.dvd {n j : Nat} (h : IsDouble n) (hj : 2 ^ j ≤ n) : 2 ^ j ∣ n * 2 ^ 52 := by
  have hne : n ≠ 0 := by
    rintro rfl
    exact absurd hj (Nat.not_le.mpr (Nat.two_pow_pos j))
  exact Nat.dvd_trans (Nat.pow_dvd_pow 2 ((Nat.le_log2 hne).mpr hj)) h

theorem isDouble_of_lt {n : Nat} (hn : 0 < n) (hlt : n < 2 ^ 53) : IsDouble n := by
  have hlog : n.log2 ≤ 52 := Nat.le_of_lt_succ ((Nat.log2_lt (Nat.ne_of_gt hn)).mpr hlt)
  exact Nat.dvd_mul_left_of_dvd (Nat.pow_dvd_pow 2 hlog) n

/-- A number of either sign with 53 binary digits, whose size is at least one and at most `bound`. -/
def AtMost (bound : Nat) (u : UnpackedFloat) : Prop :=
  ∃ s m, ∃ j : Nat, ∃ h, u = .finite s m (j - 52) h ∧ 2 ^ 52 ≤ m ∧ m < 2 ^ 53 ∧ m * 2 ^ j ≤ bound * 2 ^ 52

theorem two_pow_le_of_mul_le {bound m j : Nat} (hm : 2 ^ 52 ≤ m) (hle : m * 2 ^ j ≤ bound * 2 ^ 52) :
    2 ^ j ≤ bound := by
  refine Nat.le_of_mul_le_mul_right ?_ (Nat.two_pow_pos 52)
  calc 2 ^ j * 2 ^ 52 = 2 ^ 52 * 2 ^ j := Nat.mul_comm _ _
    _ ≤ m * 2 ^ j := Nat.mul_le_mul_right _ hm
    _ ≤ bound * 2 ^ 52 := hle

theorem AtMost.mono {a b : Nat} {u : UnpackedFloat} (h : AtMost a u) (hle : a ≤ b) : AtMost b u := by
  obtain ⟨s, m, j, hpos, heq, hm, hlt, hj⟩ := h
  exact ⟨s, m, j, hpos, heq, hm, hlt, Nat.le_trans hj (Nat.mul_le_mul_right _ hle)⟩

theorem AtMost.isInf_eq {bound : Nat} {u : UnpackedFloat} (h : AtMost bound u) : u.isInf = false := by
  obtain ⟨s, m, j, hpos, rfl, -⟩ := h
  rfl

/-- What is up to a multiple of `g` and no multiple itself is also with `g` more. -/
theorem succ_mul_le_of_dvd {q g d m bound : Nat} (hg : g ∣ bound) (hq : q * d < m) (hpos : 0 < g)
    (hle : m * g ≤ bound * d) : (q + 1) * g ≤ bound := by
  obtain ⟨c, rfl⟩ := hg
  have hqc : q < c := by
    refine Nat.lt_of_mul_lt_mul_right (a := d * g) ?_
    calc q * (d * g) = q * d * g := (Nat.mul_assoc _ _ _).symm
      _ < m * g := Nat.mul_lt_mul_of_pos_right hq hpos
      _ ≤ g * c * d := hle
      _ = c * (d * g) := by rw [Nat.mul_comm g c, Nat.mul_assoc, Nat.mul_comm g d]
  calc (q + 1) * g ≤ c * g := Nat.mul_le_mul_right _ hqc
    _ = g * c := Nat.mul_comm _ _

/-- **What is at most a double is rounded to at most that double.** -/
theorem atMost_round (s : Sign) {m j bound : Nat} {e : Int} (hm : 52 ≤ m.log2) (hj : e + m.log2 = j)
    (hle : m * 2 ^ j ≤ bound * 2 ^ m.log2) (hbound : IsDouble bound) :
    AtMost bound (roundWithAccuracy Format.binary64 s m e .exact) := by
  have hexp : e + (m.log2 - 52 : Nat) = (j : Int) - 52 := by omega
  obtain ⟨hq, -⟩ := log2_div_pow hm
  obtain ⟨n, hn, hround⟩ := roundWithAccuracy_eq s hm (e := e) (by omega)
  have hsplit : bound * 2 ^ m.log2 = bound * 2 ^ 52 * 2 ^ (m.log2 - 52) := by
    rw [Nat.mul_assoc, ← Nat.pow_add, Nat.add_sub_cancel' hm]
  rw [hexp] at hround
  rw [hsplit] at hle
  generalize m.log2 - 52 = k at *
  have hfloor : m / 2 ^ k * 2 ^ k ≤ m := Nat.div_mul_le_self m (2 ^ k)
  have hqle : m / 2 ^ k * 2 ^ j ≤ bound * 2 ^ 52 := by
    refine Nat.le_of_mul_le_mul_right ?_ (Nat.two_pow_pos k)
    calc m / 2 ^ k * 2 ^ j * 2 ^ k = m / 2 ^ k * 2 ^ k * 2 ^ j := Nat.mul_right_comm _ _ _
      _ ≤ m * 2 ^ j := Nat.mul_le_mul_right _ hfloor
      _ ≤ bound * 2 ^ 52 * 2 ^ k := hle
  have hnle : n * 2 ^ j ≤ bound * 2 ^ 52 := by
    rcases hn with rfl | ⟨rfl, hdvd⟩
    · exact hqle
    · have hlt : m / 2 ^ k * 2 ^ k < m :=
        Nat.lt_of_le_of_ne hfloor fun heq => hdvd ⟨_, by rw [Nat.mul_comm, heq]⟩
      exact succ_mul_le_of_dvd (hbound.dvd (two_pow_le_of_mul_le hq hqle)) hlt (Nat.two_pow_pos j) hle
  have hnge : 2 ^ 52 ≤ n := by
    rcases hn with rfl | ⟨rfl, -⟩
    · exact hq
    · exact Nat.le_succ_of_le hq
  rcases hround with ⟨hpos, hlt, heq⟩ | ⟨hpos, rfl, heq⟩
  · exact ⟨s, n, j, hpos, heq, hnge, hlt, hnle⟩
  · refine ⟨s, 2 ^ 52, j + 1, hpos, ?_, Nat.le_refl _, by decide, ?_⟩
    · rw [heq]
      congr 1
      omega
    · rw [← Nat.pow_add] at hnle ⊢
      rwa [show 52 + (j + 1) = 53 + j by omega]

/-! ### Packing -/

/-- The largest finite double. -/
def largest : Nat := (2 ^ 53 - 1) * 2 ^ 971

theorem isDouble_largest : IsDouble largest := by decide +kernel

theorem lt_of_two_pow_le_largest {j : Nat} (h : 2 ^ j ≤ largest) : j < 1024 := by
  have hlt : ∀ k, (2 ^ 53 - 1) * 2 ^ k < 2 ^ (53 + k) := fun k => by
    rw [Nat.pow_add]
    exact Nat.mul_lt_mul_of_pos_right (by decide) (Nat.two_pow_pos k)
  have hj := (Nat.pow_lt_pow_iff_right Nat.one_lt_two).mp (Nat.lt_of_le_of_lt h (hlt 971))
  omega

theorem finite_congr {s : Sign} {m m' : Nat} {e e' : Int} (hm : m' = m) (he : e' = e) (h : 0 < m')
    (h' : 0 < m) : UnpackedFloat.finite s m' e' h = .finite s m e h' := by
  subst hm he
  rfl

/-- The first digit is not stored, and comes back. -/
theorem toNat_one_append {m : Nat} (hm : 2 ^ 52 ≤ m) (hlt : m < 2 ^ 53) :
    (1#1 ++ BitVec.ofNat 52 m).toNat = m := by
  rw [BitVec.toNat_append, ← Nat.shiftLeft_add_eq_or_of_lt (BitVec.isLt _), BitVec.toNat_ofNat,
    Nat.shiftLeft_eq]
  simp only [BitVec.toNat_ofNat]
  omega

/-- The exponents of finite numbers that are at least one are neither the first nor the last. -/
theorem exponent_ne {j : Nat} (hj : j < 1024) : (BitVec.ofNat 11 (j + 1023)).toNat = j + 1023 ∧
    BitVec.ofNat 11 (j + 1023) ≠ -1#11 ∧ BitVec.ofNat 11 (j + 1023) ≠ 0#11 := by
  have h : (BitVec.ofNat 11 (j + 1023)).toNat = j + 1023 := by
    rw [BitVec.toNat_ofNat, Nat.mod_eq_of_lt (by omega)]
  refine ⟨h, fun heq => ?_, fun heq => ?_⟩
  · have hlast := congrArg BitVec.toNat heq
    rw [h, show (-1#11).toNat = 2047 from rfl] at hlast
    omega
  · have hfirst := congrArg BitVec.toNat heq
    rw [h, show (0#11).toNat = 0 from rfl] at hfirst
    omega

theorem pack_finite (s : Sign) {m j : Nat} (hm : 2 ^ 52 ≤ m) (hlt : m < 2 ^ 53) (hj : j < 1024)
    (h : 0 < m) : UnpackedFloat.pack Format.binary64 (.finite s m (j - 52) h) =
      packComponents Format.binary64 s (BitVec.ofNat _ (j + 1023)) (BitVec.ofNat _ m) := by
  have hbias : (Format.binary64.exponentBias : Int) = 1023 := rfl
  have hbiased : ((j : Int) - 52 + Format.binary64.exponentBias +
      Format.binary64.mantissaBitsWithoutImplicit).toNat = j + 1023 := by
    rw [hbias]
    simp only
    omega
  rw [UnpackedFloat.pack, hbiased]
  dsimp only
  rw [if_neg (by omega), if_pos (by rw [log2_eq hm hlt]; rfl)]

theorem unpack_of_exponent {b : BitVec Format.binary64.numBits} (hnan : unpackExponent b ≠ -1#_)
    (hzero : unpackExponent b ≠ 0#_) {m j : Nat} (hm : (1#1 ++ unpackMantissa b).toNat = m)
    (hj : (unpackExponent b).toNat = j + 1023) (h : 0 < m) :
    ∃ s, UnpackedFloat.unpack Format.binary64 b = .finite s m (j - 52) h := by
  have hbias : (Format.binary64.exponentBias : Int) = 1023 := rfl
  refine ⟨Sign.ofBitVec (unpackSign b), ?_⟩
  simp only [UnpackedFloat.unpack, if_neg hnan, if_neg hzero]
  refine finite_congr hm ?_ _ _
  rw [hj, hbias]
  omega

/-- The exponent of a finite double is not the last one. -/
theorem exponent_lt_of_isFinite {b : BitVec Format.binary64.numBits}
    (h : (UnpackedFloat.unpack Format.binary64 b).isFinite = true) :
    (b.toNat >>> 52) % (1 <<< 11) < 2047 := by
  have hne : unpackExponent b ≠ -1#_ := by
    intro heq
    simp only [UnpackedFloat.unpack, if_pos heq] at h
    split at h <;> cases h
  have hvalue : (unpackExponent b).toNat = (b.toNat >>> 52) % (1 <<< 11) := by
    rw [unpackExponent, BitVec.toNat_cast, BitVec.extractLsb_toNat]
    rfl
  rw [← hvalue]
  refine Nat.lt_of_le_of_ne (Nat.le_of_lt_succ (unpackExponent b).isLt) fun heq => hne ?_
  exact BitVec.eq_of_toNat_eq (heq.trans rfl)

/-- A number up to the largest double is still finite when it is stored. -/
theorem AtMost.unpack_pack {bound : Nat} {u : UnpackedFloat} (h : AtMost bound u)
    (hbound : bound ≤ largest) : AtMost bound (Float.Model.pack u).unpack := by
  obtain ⟨s, m, j, hpos, rfl, hm, hlt, hle⟩ := h
  have hj := lt_of_two_pow_le_largest (Nat.le_trans (two_pow_le_of_mul_le hm hle) hbound)
  obtain ⟨hexponent, hnan, hzero⟩ := exponent_ne hj
  have hstored : ∃ s', (Float.Model.pack (.finite s m (j - 52) hpos)).unpack = .finite s' m (j - 52) hpos := by
    change ∃ s', UnpackedFloat.unpack Format.binary64 (UnpackedFloat.pack Format.binary64 _) = _
    rw [pack_finite s hm hlt hj hpos]
    refine unpack_of_exponent ?_ ?_ ?_ ?_ hpos
    · rwa [unpackExponent_packComponents]
    · rwa [unpackExponent_packComponents]
    · rw [unpackMantissa_packComponents]
      exact toNat_one_append hm hlt
    · rwa [unpackExponent_packComponents]
  obtain ⟨s', heq⟩ := hstored
  exact ⟨s', m, j, hpos, heq, hm, hlt, hle⟩

/-! ### Products -/

theorem AtMost.mul {a b bound : Nat} {u v : UnpackedFloat} (hu : AtMost a u) (hv : AtMost b v)
    (hle : a * b ≤ bound) (hbound : IsDouble bound) :
    AtMost bound (UnpackedFloat.mul Format.binary64 u v) := by
  obtain ⟨s, m, j, hpos, rfl, hm, -, hj⟩ := hu
  obtain ⟨s', m', j', hpos', rfl, hm', -, hj'⟩ := hv
  have hge : 2 ^ 104 ≤ m * m' := by
    calc 2 ^ 104 = 2 ^ 52 * 2 ^ 52 := by decide
      _ ≤ m * m' := Nat.mul_le_mul hm hm'
  have hlog : 104 ≤ (m * m').log2 := (Nat.le_log2 (Nat.ne_of_gt (Nat.mul_pos hpos hpos'))).mpr hge
  have hprod : m * m' * 2 ^ (j + j') ≤ bound * 2 ^ 104 := by
    calc m * m' * 2 ^ (j + j') = m * 2 ^ j * (m' * 2 ^ j') := by rw [Nat.pow_add]; ac_rfl
      _ ≤ a * 2 ^ 52 * (b * 2 ^ 52) := Nat.mul_le_mul hj hj'
      _ = a * b * (2 ^ 52 * 2 ^ 52) := by ac_rfl
      _ ≤ bound * 2 ^ 104 := Nat.mul_le_mul_right _ hle
  rw [UnpackedFloat.mul]
  refine atMost_round _ (j := j + j' + ((m * m').log2 - 104)) (by omega) (by omega) ?_ hbound
  calc m * m' * 2 ^ (j + j' + ((m * m').log2 - 104))
      = m * m' * 2 ^ (j + j') * 2 ^ ((m * m').log2 - 104) := by
        rw [Nat.pow_add _ (j + j'), ← Nat.mul_assoc]
    _ ≤ bound * 2 ^ 104 * 2 ^ ((m * m').log2 - 104) := Nat.mul_le_mul_right _ hprod
    _ = bound * 2 ^ (m * m').log2 := by rw [Nat.mul_assoc, ← Nat.pow_add, Nat.add_sub_cancel' hlog]

theorem atMost_mul {f g : Float} {a b bound : Nat} (hf : AtMost a f.toModel.unpack)
    (hg : AtMost b g.toModel.unpack) (hle : a * b ≤ bound) (hbound : IsDouble bound)
    (hlargest : bound ≤ largest) : AtMost bound (f * g).toModel.unpack :=
  (hf.mul hg hle hbound).unpack_pack hlargest

/-! ### Significands and powers of ten -/

theorem log2_mul_two_pow {n : Nat} (hn : 0 < n) (k : Nat) : (n * 2 ^ k).log2 = n.log2 + k := by
  have hne : n ≠ 0 := Nat.ne_of_gt hn
  refine (Nat.log2_eq_iff (Nat.ne_of_gt (Nat.mul_pos hn (Nat.two_pow_pos k)))).mpr ⟨?_, ?_⟩
  · rw [Nat.pow_add]
    exact Nat.mul_le_mul_right _ (Nat.log2_self_le hne)
  · rw [Nat.add_right_comm, Nat.pow_add]
    exact Nat.mul_lt_mul_of_pos_right Nat.lt_log2_self (Nat.two_pow_pos k)

theorem ofScientific_eq {m e : Nat} (hm : 0 < m) (he : e ≤ 308) :
    UnpackedFloat.ofScientific Format.binary64 m e =
      roundWithAccuracy Format.binary64 .positive (m <<< 53 * 10 ^ e) (-53) .exact := by
  have hbits : (Format.binary64.exponentBits : Nat) = 11 := rfl
  rw [UnpackedFloat.ofScientific, dif_neg (Nat.ne_of_gt hm), if_neg (by rw [hbits]; omega),
    if_neg (by rw [hbits]; omega), if_pos (by omega)]
  rfl

theorem atMost_ofScientific {m e bound : Nat} (hm : 0 < m) (he : e ≤ 308) (hle : m * 10 ^ e ≤ bound)
    (hbound : IsDouble bound) : AtMost bound (UnpackedFloat.ofScientific Format.binary64 m e) := by
  have hpos : 0 < m * 10 ^ e := Nat.mul_pos hm (Nat.pow_pos (by decide))
  have hshift : m <<< 53 * 10 ^ e = m * 10 ^ e * 2 ^ 53 := by rw [Nat.shiftLeft_eq, Nat.mul_right_comm]
  have hlog : (m <<< 53 * 10 ^ e).log2 = (m * 10 ^ e).log2 + 53 := by rw [hshift, log2_mul_two_pow hpos]
  rw [ofScientific_eq hm he]
  refine atMost_round _ (j := (m * 10 ^ e).log2) (by omega) (by omega) ?_ hbound
  rw [hlog, hshift, Nat.pow_add, Nat.mul_right_comm, ← Nat.mul_assoc]
  exact Nat.mul_le_mul_right _ (Nat.mul_le_mul_right _ hle)

/-- The general way to a double, where the short one for small numbers does not apply. -/
theorem ofScientific_of_not {m e : Nat} (h : ¬ (m < 2 ^ 53 ∧ e ≤ 22)) :
    Float.ofScientific m false e = .ofModel (.pack (UnpackedFloat.ofScientific Format.binary64 m e)) := by
  rw [Float.ofScientific, dif_neg h]
  rfl

theorem unpackedOfNat_eq {n : Nat} (hn : 0 < n) (hlog : n.log2 ≤ 52) :
    UnpackedFloat.ofNat Format.binary64 n =
      roundWithAccuracy Format.binary64 .positive (n <<< (52 - n.log2)) (-(52 - n.log2 : Nat)) .exact := by
  have hgt : compare (n : Int) 0 = .gt := Int.compare_eq_gt.mpr (Int.natCast_pos.mpr hn)
  have hshift : (0 - ((n.log2 : Int) + 0 - 52)).toNat = 52 - n.log2 := by omega
  have htarget : (-1074 : Int) ≤ n.log2 + 0 - 52 := by omega
  rw [UnpackedFloat.ofNat, UnpackedFloat.ofInt, UnpackedFloat.normalize, hgt]
  dsimp only
  rw [Int.toNat_natCast, UnpackedFloat.round, targetExponent_eq, Int.max_eq_left htarget, decreaseExponent, hshift]
  dsimp only
  rw [Int.zero_sub]

/-- Numbers with 53 digits are doubles, and are not rounded. -/
theorem atMost_toFloat {n : Nat} (hn : 0 < n) (hlt : n < 2 ^ 53) :
    AtMost n n.toUInt64.toFloat.toModel.unpack := by
  have hlog : n.log2 ≤ 52 := Nat.le_of_lt_succ ((Nat.log2_lt (Nat.ne_of_gt hn)).mpr hlt)
  have hlog' : (n <<< (52 - n.log2)).log2 = 52 := by
    rw [Nat.shiftLeft_eq, log2_mul_two_pow hn, Nat.add_sub_cancel' hlog]
  have hround : AtMost n (UnpackedFloat.ofNat Format.binary64 n) := by
    rw [unpackedOfNat_eq hn hlog]
    refine atMost_round _ (j := n.log2) (by omega) (by omega) ?_ (isDouble_of_lt hn hlt)
    rw [hlog', Nat.shiftLeft_eq, Nat.mul_assoc, ← Nat.pow_add, Nat.sub_add_cancel hlog]
  have htoNat : n.toUInt64.toNat = n := Nat.mod_eq_of_lt (by omega)
  have hmodel : n.toUInt64.toFloat.toModel =
      .pack (UnpackedFloat.ofNat Format.binary64 n.toUInt64.toNat) := rfl
  rw [hmodel, htoNat]
  exact hround.unpack_pack (Nat.le_trans (Nat.le_of_lt hlt) (by decide +kernel))

theorem ofNat_of_lt {n : Nat} (h : n < 2 ^ 53) :
    Float.ofNat n = n.toUInt64.toFloat * Float.ofBits 0x3FF0000000000000 := by
  change Float.ofScientific n false 0 = _
  rw [Float.ofScientific, dif_pos ⟨h, by decide⟩]
  rfl

theorem atMost_one : AtMost 1 (Float.ofBits 0x3FF0000000000000).toModel.unpack :=
  ⟨.positive, 2 ^ 52, 0, by decide, rfl, by decide, by decide, by decide⟩

/-- A natural number up to a double becomes a double up to that. -/
theorem atMost_ofNat {n bound : Nat} (hn : 0 < n) (hle : n ≤ bound) (hbound : IsDouble bound)
    (hlargest : bound ≤ largest) : AtMost bound (Float.ofNat n).toModel.unpack := by
  by_cases hlt : n < 2 ^ 53
  · rw [ofNat_of_lt hlt]
    refine AtMost.mono ?_ hle
    exact atMost_mul (atMost_toFloat hn hlt) atMost_one (Nat.le_of_eq (Nat.mul_one n))
      (isDouble_of_lt hn hlt) (Nat.le_trans hle hlargest)
  · have heq : Float.ofNat n = .ofModel (.pack (UnpackedFloat.ofScientific Format.binary64 n (0 : Nat))) :=
      ofScientific_of_not fun h => hlt h.1
    rw [heq]
    refine (atMost_ofScientific hn (Nat.zero_le _) ?_ hbound).unpack_pack hlargest
    rwa [Nat.pow_zero, Nat.mul_one]

theorem powerOfTen_eq (e : Nat) : Significand.powerOfTen e =
    .ofModel (.pack (UnpackedFloat.ofScientific Format.binary64 1 e)) := by
  have hexact : ∀ e ≤ 22, Significand.powerOfTen e =
      .ofModel (.pack (UnpackedFloat.ofScientific Format.binary64 1 e)) := by decide +kernel
  by_cases he : e ≤ 22
  · exact hexact e he
  · exact ofScientific_of_not fun h => he h.2

theorem atMost_powerOfTen {e bound : Nat} (he : e ≤ 308) (hle : 10 ^ e ≤ bound) (hbound : IsDouble bound)
    (hlargest : bound ≤ largest) : AtMost bound (Significand.powerOfTen e).toModel.unpack := by
  rw [powerOfTen_eq]
  exact (atMost_ofScientific Nat.one_pos he (by rwa [Nat.one_mul]) hbound).unpack_pack hlargest

/-! ### Decimals -/

theorem isInf_mul_of_bounds {n e a b : Nat} (hn : 0 < n) (he : e ≤ 308) (hna : n ≤ a) (hab : a * b ≤ largest)
    (hda : IsDouble a) (hla : a ≤ largest) (heb : 10 ^ e ≤ b) (hdb : IsDouble b) (hlb : b ≤ largest) :
    (Float.ofNat n * Significand.powerOfTen e).isInf = false :=
  (atMost_mul (atMost_ofNat hn hna hda hla) (atMost_powerOfTen he heb hdb hlb) hab isDouble_largest
    (Nat.le_refl _)).isInf_eq

/-- Half way between the two largest doubles. -/
def lastHalfway : Nat := (2 ^ 54 - 3) * 2 ^ 970

/-- The least double that is not below `n`. -/
def ceil (n : Nat) : Nat := (n + (2 ^ (n.log2 - 52) - 1)) / 2 ^ (n.log2 - 52) * 2 ^ (n.log2 - 52)

/-- Up to this power of ten there is room for the errors of all numbers with 17 digits. -/
theorem isInf_mul_of_le {n e : Nat} (hn : 0 < n) (hdigits : n ≤ 10 ^ 17) (he : e ≤ 291) :
    (Float.ofNat n * Significand.powerOfTen e).isInf = false := by
  have hpow : ∀ k b, e ≤ k → 10 ^ k ≤ b → 10 ^ e ≤ b := fun k b hek hkb =>
    Nat.le_trans (Nat.pow_le_pow_right (by decide) hek) hkb
  refine isInf_mul_of_bounds (a := 3 * 2 ^ 55) (b := 2 ^ 967) hn (by omega) (Nat.le_trans hdigits ?_) ?_ ?_ ?_
    (hpow 291 _ he ?_) ?_ ?_ <;> decide +kernel

/-- The largest powers of ten leave no room for an error of the number, and it is too short to have one. -/
theorem isInf_mul_of_lt {n e : Nat} (hn : 0 < n) (hlt : 291 < e) (he : e ≤ 308)
    (hle : n * 10 ^ e ≤ lastHalfway) : (Float.ofNat n * Significand.powerOfTen e).isInf = false := by
  have hcheck : ∀ i < 17, lastHalfway / 10 ^ (292 + i) * ceil (10 ^ (292 + i)) ≤ largest ∧
      IsDouble (lastHalfway / 10 ^ (292 + i)) ∧ lastHalfway / 10 ^ (292 + i) ≤ largest ∧
      10 ^ (292 + i) ≤ ceil (10 ^ (292 + i)) ∧ IsDouble (ceil (10 ^ (292 + i))) ∧
      ceil (10 ^ (292 + i)) ≤ largest := by decide +kernel
  have h := hcheck (e - 292) (by omega)
  rw [Nat.add_sub_cancel' hlt] at h
  obtain ⟨hab, hda, hla, heb, hdb, hlb⟩ := h
  have hna : n ≤ lastHalfway / 10 ^ e := (Nat.le_div_iff_mul_le (Nat.pow_pos (by decide))).mpr hle
  exact isInf_mul_of_bounds hn he hna hab hda hla heb hdb hlb

/-- **A decimal up to the last half way is scaled to a finite double**, when it has at most 17 digits. -/
theorem isInf_ofNat_mul_powerOfTen {n e : Nat} (hn : 0 < n) (hdigits : n ≤ 10 ^ 17)
    (hle : n * 10 ^ e ≤ lastHalfway) :
    e ≤ 308 ∧ (Float.ofNat n * Significand.powerOfTen e).isInf = false := by
  have hpow : ∀ k, lastHalfway < 10 ^ k → e < k := fun k hk => by
    refine (Nat.pow_lt_pow_iff_right (a := 10) (by decide)).mp (Nat.lt_of_le_of_lt ?_ hk)
    exact Nat.le_trans (Nat.le_mul_of_pos_left _ hn) hle
  have he : e ≤ 308 := Nat.le_of_lt_succ (hpow 309 (by decide +kernel))
  rcases Nat.lt_or_ge 291 e with hgt | hle'
  · exact ⟨he, isInf_mul_of_lt hn hgt he hle⟩
  · exact ⟨he, isInf_mul_of_le hn hdigits hle'⟩

end Double

end Marionette
