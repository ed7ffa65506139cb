import Marionette.Decimal.Digit

/-!
# Decimal numerals

A numeral is a decimal number as it is written: a sign, whole digits, perhaps digits after a point and
perhaps a power of ten.  `1`, `1.0` and `1e+0` are three numerals.

## Main definitions

* `Numeral`, `Numeral.text`.
* `Numeral.scan` — read the numeral in front of a text.
* `Numeral.ofNat`, `Numeral.ofInt`, `Numeral.toNat?`, `Numeral.toInt?`.

## Main results

* `Numeral.length_scan_lt` — a numeral takes at least one character.
-/

namespace Marionette

/-- A decimal number as it is written. -/
structure Numeral where
  negative : Bool := false
  whole : List Digit
  /-- The digits after the point; without any there is no point. -/
  fraction : List Digit := []
  /-- The power of ten, if one is written. -/
  exponent : Option Int := none
  deriving DecidableEq, Repr

namespace Numeral

/-! ### Writing -/

/-- The sign of an exponent is always written. -/
def exponentText (e : Int) : List Char :=
  'e' :: (if e < 0 then '-' else '+') :: digitText (digitsOf e.natAbs)

/-- The numeral as text. -/
def text (n : Numeral) : List Char :=
  (if n.negative then ['-'] else []) ++ digitText n.whole ++
    (if n.fraction.isEmpty then [] else '.' :: digitText n.fraction) ++
    (match n.exponent with
      | none => []
      | some e => exponentText e)

/-! ### Reading -/

/-- Read digits, at least one. -/
def scanDigits (cs : List Char) : Option (List Digit × List Char) :=
  match takeDigits cs with
  | ([], _) => none
  | (d :: ds, rest) => some (d :: ds, rest)

/-- Read whole digits: a zero in front stands alone. -/
def scanWhole (cs : List Char) : Option (List Digit × List Char) :=
  match takeDigits cs with
  | ([], _) => none
  | ([d], rest) => some ([d], rest)
  | (d :: ds, rest) => if d = Digit.zero then none else some (d :: ds, rest)

/-- Read a point and digits, or nothing where there is no point. -/
def scanFraction : List Char → Option (List Digit × List Char)
  | '.' :: cs => scanDigits cs
  | cs => some ([], cs)

/-- Read an exponent's sign and digits. -/
def scanSigned : List Char → Option (Int × List Char)
  | '+' :: cs => (scanDigits cs).map fun r => (Int.ofNat (ofDigits r.1), r.2)
  | '-' :: cs => (scanDigits cs).map fun r => (-Int.ofNat (ofDigits r.1), r.2)
  | cs => (scanDigits cs).map fun r => (Int.ofNat (ofDigits r.1), r.2)

/-- Read a power of ten, or nothing where there is no `e`. -/
def scanExponent : List Char → Option (Option Int × List Char)
  | 'e' :: cs => (scanSigned cs).map fun r => (some r.1, r.2)
  | 'E' :: cs => (scanSigned cs).map fun r => (some r.1, r.2)
  | cs => some (none, cs)

/-- Read a numeral without its sign. -/
def scanUnsigned (negative : Bool) (cs : List Char) : Option (Numeral × List Char) := do
  let (whole, cs) ← scanWhole cs
  let (fraction, cs) ← scanFraction cs
  let (exponent, cs) ← scanExponent cs
  pure ({ negative, whole, fraction, exponent }, cs)

/-- Read the numeral in front of a text, and give what follows it. -/
def scan : List Char → Option (Numeral × List Char)
  | '-' :: cs => scanUnsigned true cs
  | cs => scanUnsigned false cs

theorem length_scanDigits_lt {cs : List Char} {r : List Digit × List Char}
    (h : scanDigits cs = some r) : r.2.length < cs.length := by
  have := length_takeDigits cs
  rw [scanDigits] at h
  split at h
  · cases h
  · next heq => rw [heq] at this; cases h; simp at this; simp; omega

theorem length_scanWhole_lt {cs : List Char} {r : List Digit × List Char}
    (h : scanWhole cs = some r) : r.2.length < cs.length := by
  have := length_takeDigits cs
  rw [scanWhole] at h
  split at h
  · cases h
  · next heq => rw [heq] at this; cases h; simp at this; simp; omega
  · next heq =>
    rw [heq] at this
    split at h
    · cases h
    · cases h; simp at this; simp; omega

theorem length_scanFraction_le {cs : List Char} {r : List Digit × List Char}
    (h : scanFraction cs = some r) : r.2.length ≤ cs.length := by
  rw [scanFraction.eq_def] at h
  split at h
  · have := length_scanDigits_lt h; simp; omega
  · cases h; simp

theorem length_scanSigned_le {cs : List Char} {r : Int × List Char}
    (h : scanSigned cs = some r) : r.2.length ≤ cs.length := by
  rw [scanSigned.eq_def] at h
  split at h
  · obtain ⟨d, hd, rfl⟩ := Option.map_eq_some_iff.1 h
    have := length_scanDigits_lt hd
    simp only [List.length_cons]
    omega
  · obtain ⟨d, hd, rfl⟩ := Option.map_eq_some_iff.1 h
    have := length_scanDigits_lt hd
    simp only [List.length_cons]
    omega
  · obtain ⟨d, hd, rfl⟩ := Option.map_eq_some_iff.1 h
    exact Nat.le_of_lt (length_scanDigits_lt hd)

theorem length_scanExponent_le {cs : List Char} {r : Option Int × List Char}
    (h : scanExponent cs = some r) : r.2.length ≤ cs.length := by
  rw [scanExponent.eq_def] at h
  split at h
  · obtain ⟨d, hd, rfl⟩ := Option.map_eq_some_iff.1 h
    have := length_scanSigned_le hd
    simp; omega
  · obtain ⟨d, hd, rfl⟩ := Option.map_eq_some_iff.1 h
    have := length_scanSigned_le hd
    simp; omega
  · cases h; simp

theorem length_scanUnsigned_lt {negative : Bool} {cs : List Char} {r : Numeral × List Char}
    (h : scanUnsigned negative cs = some r) : r.2.length < cs.length := by
  simp only [scanUnsigned, Option.bind_eq_bind, Option.bind_eq_some_iff, Option.pure_def,
    Option.some.injEq] at h
  obtain ⟨w, hw, f, hf, e, he, rfl⟩ := h
  have := length_scanWhole_lt hw
  have := length_scanFraction_le hf
  have := length_scanExponent_le he
  simp only
  omega

/-- A numeral takes at least one character. -/
theorem length_scan_lt {cs : List Char} {r : Numeral × List Char} (h : scan cs = some r) :
    r.2.length < cs.length := by
  rw [scan.eq_def] at h
  split at h
  · have := length_scanUnsigned_lt h; simp; omega
  · exact length_scanUnsigned_lt h

/-! ### Whole numbers -/

/-- The numeral of a natural number. -/
def ofNat (n : Nat) : Numeral := { whole := digitsOf n }

/-- The numeral of an integer. -/
def ofInt (i : Int) : Numeral := { negative := i < 0, whole := digitsOf i.natAbs }

/-- Whether the numeral has neither a point nor a power of ten. -/
def isPlain (n : Numeral) : Bool := n.fraction.isEmpty && n.exponent.isNone

/-- The natural number of a plain numeral without a sign. -/
def toNat? (n : Numeral) : Option Nat :=
  if n.isPlain && !n.negative then some (ofDigits n.whole) else none

/-- The integer of a plain numeral.  Minus zero is no integer. -/
def toInt? (n : Numeral) : Option Int :=
  let value := ofDigits n.whole
  if !n.isPlain then none
  else if n.negative then if value = 0 then none else some (-Int.ofNat value)
  else some (Int.ofNat value)

@[simp] theorem toNat?_ofNat (n : Nat) : (ofNat n).toNat? = some n := by
  simp [ofNat, toNat?, isPlain]

end Numeral

end Marionette
