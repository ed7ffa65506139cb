/-!
# Decimal digits

Digits, their characters, and natural numbers as lists of digits, most significant first.

## Main definitions

* `Digit`, `Digit.toChar`, `Digit.ofChar?`.
* `digitsOf` and `ofDigits` between numbers and digits.
* `takeDigits` — the digits in front of a text; `decimal` — the text of a number.

## Main results

* `ofDigits_digitsOf` — the digits of a number have its value.
* `decimal_injective` — different numbers have different texts.
* `takeDigits_append` — digits in front of something else are taken, and nothing more.
-/

namespace Marionette

/-- A decimal digit. -/
abbrev Digit := Fin 10

namespace Digit

/-- The digit 0. -/
def zero : Digit := 0

/-- The character of a digit. -/
def toChar (d : Digit) : Char := Char.ofNat (48 + d.val)

/-- The digit of a character, for `0` to `9` alone. -/
def ofChar? (c : Char) : Option Digit :=
  if h : 48 ≤ c.toNat ∧ c.toNat < 58 then some ⟨c.toNat - 48, by omega⟩ else none

@[simp] theorem ofChar?_toChar (d : Digit) : ofChar? d.toChar = some d := by
  revert d; decide

end Digit

/-! ### Numbers -/

/-- The digits of a number; zero has one digit. -/
def digitsOf (n : Nat) : List Digit :=
  if h : n < 10 then [⟨n, h⟩]
  else digitsOf (n / 10) ++ [⟨n % 10, Nat.mod_lt _ (by omega)⟩]

/-- The value of digits that follow a number `start`. -/
def ofDigitsFrom (start : Nat) (ds : List Digit) : Nat := ds.foldl (fun n d => 10 * n + d.val) start

/-- The value of a list of digits. -/
def ofDigits (ds : List Digit) : Nat := ofDigitsFrom 0 ds

theorem ofDigits_concat (ds : List Digit) (d : Digit) :
    ofDigits (ds ++ [d]) = 10 * ofDigits ds + d.val := by
  simp [ofDigits, ofDigitsFrom]

/-- The digits of a number have its value. -/
@[simp] theorem ofDigits_digitsOf (n : Nat) : ofDigits (digitsOf n) = n := by
  induction n using Nat.strongRecOn with
  | ind n ih =>
    rw [digitsOf]
    split
    · simp [ofDigits, ofDigitsFrom]
    · rw [ofDigits_concat, ih _ (by omega)]
      simp only
      omega

theorem digitsOf_ne_nil (n : Nat) : digitsOf n ≠ [] := by
  rw [digitsOf]; split <;> simp

theorem digitsOf_injective {m n : Nat} (h : digitsOf m = digitsOf n) : m = n := by
  rw [← ofDigits_digitsOf m, h, ofDigits_digitsOf]

/-- The digits with the zeros at the end left out. -/
def dropTrailingZeros (ds : List Digit) : List Digit := (ds.reverse.dropWhile (· == Digit.zero)).reverse

/-! ### Texts -/

/-- The digits in front of a text, and what follows them. -/
def takeDigits : List Char → List Digit × List Char
  | [] => ([], [])
  | c :: cs =>
    match Digit.ofChar? c with
    | some d => (d :: (takeDigits cs).1, (takeDigits cs).2)
    | none => ([], c :: cs)

/-- The text of some digits. -/
def digitText (ds : List Digit) : List Char := ds.map Digit.toChar

/-- A number as a text. -/
def decimal (n : Nat) : String := String.ofList (digitText (digitsOf n))

theorem digitText_injective {ds es : List Digit} (h : digitText ds = digitText es) : ds = es := by
  refine List.map_inj_right (fun d e hde => ?_) |>.1 h
  have : Digit.ofChar? d.toChar = Digit.ofChar? e.toChar := congrArg _ hde
  simpa using this

/-- Different numbers have different texts. -/
theorem decimal_injective {m n : Nat} (h : decimal m = decimal n) : m = n := by
  have : (decimal m).toList = (decimal n).toList := congrArg _ h
  simp only [decimal, String.toList_ofList] at this
  exact digitsOf_injective (digitText_injective this)

/-- Whether a text goes on with a digit. -/
def startsWithDigit : List Char → Bool
  | [] => false
  | c :: _ => (Digit.ofChar? c).isSome

theorem takeDigits_append (ds : List Digit) {rest : List Char} (h : startsWithDigit rest = false) :
    takeDigits (digitText ds ++ rest) = (ds, rest) := by
  induction ds with
  | nil =>
    cases rest with
    | nil => rfl
    | cons c cs =>
      simp only [startsWithDigit, Option.isSome_eq_false_iff, Option.isNone_iff_eq_none] at h
      simp [digitText, takeDigits, h]
  | cons d ds ih =>
    simp only [digitText, List.map_cons, List.cons_append] at ih ⊢
    simp [takeDigits, ih]

theorem length_takeDigits (cs : List Char) :
    (takeDigits cs).1.length + (takeDigits cs).2.length = cs.length := by
  induction cs with
  | nil => rfl
  | cons c cs ih =>
    rw [takeDigits]
    split
    · simp only [List.length_cons]
      omega
    · simp

end Marionette
