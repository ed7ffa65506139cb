/-!
# The ChaCha block function

Sixteen 32-bit words are stirred by double rounds of quarter rounds and added to themselves as they were.
With the words made of fixed constants, a key and a counter, the blocks for counters 0, 1, 2, … are a
stream of pseudorandom words.

## Main definitions

* `ChaCha.Block` — sixteen words.
* `ChaCha.stir`, `ChaCha.Block.ofCounter`, `ChaCha.keystream`.
-/

namespace Marionette

namespace ChaCha

/-- Sixteen words, read as four rows of four. -/
abbrev Block := Vector UInt32 16

/-- `w` turned left by `n` bits, for `0 < n < 32`. -/
def rotateLeft (w n : UInt32) : UInt32 := (w <<< n) ||| (w >>> (32 - n))

/-- Mix four words of a block. -/
def quarterRound (b : Block) (i j k l : Fin 16) : Block :=
  let a := b[i] + b[j]
  let d := rotateLeft (b[l] ^^^ a) 16
  let c := b[k] + d
  let e := rotateLeft (b[j] ^^^ c) 12
  let a := a + e
  let d := rotateLeft (d ^^^ a) 8
  let c := c + d
  let e := rotateLeft (e ^^^ c) 7
  (((b.set i a).set j e).set k c).set l d

/-- One round down the columns and one along the diagonals. -/
def doubleRound (b : Block) : Block :=
  let b := quarterRound b 0 4 8 12
  let b := quarterRound b 1 5 9 13
  let b := quarterRound b 2 6 10 14
  let b := quarterRound b 3 7 11 15
  let b := quarterRound b 0 5 10 15
  let b := quarterRound b 1 6 11 12
  let b := quarterRound b 2 7 8 13
  quarterRound b 3 4 9 14

/-- `n` double rounds. -/
def stir : Nat → Block → Block
  | 0, b => b
  | n + 1, b => stir n (doubleRound b)

/-- The block before stirring: four constants, the key, a 64-bit counter and two zero words. -/
def Block.ofCounter (key : Vector UInt32 8) (counter : Nat) : Block :=
  let constants : Vector UInt32 4 := #v[0x61707865, 0x3320646e, 0x79622d32, 0x6b206574]
  let tail : Vector UInt32 4 := #v[UInt32.ofNat counter, UInt32.ofNat (counter / UInt32.size), 0, 0]
  constants ++ key ++ tail

/-- The stream block of a counter, with twelve rounds. -/
def keystream (key : Vector UInt32 8) (counter : Nat) : Block :=
  let start := Block.ofCounter key counter
  start.zipWith (· + ·) (stir 6 start)

end ChaCha

end Marionette
