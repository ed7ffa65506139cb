import Marionette.Chance
import Marionette.Random.ChaCha

/-!
# Seeded random sources

A 64-bit seed is stretched into a ChaCha key, and the words of the key stream are read two at a time as
uniform values in `[0, 1)`.  The same seed gives the same values.

## Main definitions

* `Seed.step`, `Seed.word` — the generator that stretches a seed.
* `Seed.key` — the eight words of the key.
* `RandomSource.seeded`.
-/

namespace Marionette

namespace Seed

/-- The successor of a generator state. -/
def step (state : UInt64) : UInt64 := state * 6364136223846793005 + 11634580027462260723

/-- The output for a generator state: its xorshifted high bits, turned right by its top five bits. -/
def word (state : UInt64) : UInt32 :=
  let bits := (((state >>> 18) ^^^ state) >>> 27).toUInt32
  let turn := (state >>> 59).toUInt32
  (bits >>> turn) ||| (bits <<< ((32 - turn) % 32))

/-- The outputs for the `n` states after `state`. -/
def words : (n : Nat) → UInt64 → List UInt32
  | 0, _ => []
  | n + 1, state => word (step state) :: words n (step state)

theorem length_words (n : Nat) (state : UInt64) : (words n state).length = n := by
  induction n generalizing state with
  | zero => rfl
  | succ n ih => simp [words, ih]

/-- The key of a seed. -/
def key (seed : UInt64) : Vector UInt32 8 := ⟨(words 8 seed).toArray, length_words 8 seed⟩

end Seed

/-- The upper 53 of the 64 bits `high low`, as a fraction of 2^53 = 9007199254740992. -/
def unitFraction (low high : UInt32) : Float :=
  let bits := (high.toUInt64 <<< 32) ||| low.toUInt64
  (bits >>> 11).toFloat / 9007199254740992.0

/-- The values of a seed: each is made of the next two words of the key stream. -/
def RandomSource.seeded (seed : UInt64) : RandomSource :=
  let key := Seed.key seed
  { value := fun n =>
      let block := ChaCha.keystream key (n / 8)
      let pair := n % 8
      unitFraction (block[2 * pair]?.getD 0) (block[2 * pair + 1]?.getD 0) }

end Marionette
