import Specimen.Random.Source

/-!
# Specimen.Random.ChaCha

The stream cipher ChaCha with eight rounds as a source of random words. The key comes from a
64-bit seed, the nonce is zero and the block counter starts at zero; the words of a block are
given out in order.
-/

namespace Specimen.Random

/-- Rotates a word to the left. -/
def rotateLeft (value : UInt32) (count : UInt32) : UInt32 :=
  (value <<< count) ||| (value >>> (32 - count))

/-- Rotates a word to the right. -/
def rotateRight (value : UInt32) (count : UInt32) : UInt32 :=
  (value >>> count) ||| (value <<< ((32 - count) % 32))

namespace ChaCha

/-- The sixteen words that a block is computed from and consists of. -/
abbrev Block := Vector UInt32 16

/-- Mixes four words of a block. -/
def quarterRound (block : Block) (a b c d : Fin 16) : Block :=
  let block := block.set a (block[a] + block[b])
  let block := block.set d (rotateLeft (block[d] ^^^ block[a]) 16)
  let block := block.set c (block[c] + block[d])
  let block := block.set b (rotateLeft (block[b] ^^^ block[c]) 12)
  let block := block.set a (block[a] + block[b])
  let block := block.set d (rotateLeft (block[d] ^^^ block[a]) 8)
  let block := block.set c (block[c] + block[d])
  block.set b (rotateLeft (block[b] ^^^ block[c]) 7)

/-- Two rounds: along the columns, then along the diagonals. -/
def doubleRound (block : Block) : Block :=
  let block := quarterRound block 0 4 8 12
  let block := quarterRound block 1 5 9 13
  let block := quarterRound block 2 6 10 14
  let block := quarterRound block 3 7 11 15
  let block := quarterRound block 0 5 10 15
  let block := quarterRound block 1 6 11 12
  let block := quarterRound block 2 7 8 13
  quarterRound block 3 4 9 14

/-- The block of the given number under a key. -/
def block (key : Vector UInt32 8) (counter : UInt64) : Block :=
  let start : Block :=
    #v[0x61707865, 0x3320646e, 0x79622d32, 0x6b206574,
      key.get 0, key.get 1, key.get 2, key.get 3, key.get 4, key.get 5, key.get 6, key.get 7,
      counter.toUInt32, (counter >>> 32).toUInt32, 0, 0]
  let mixed := doubleRound (doubleRound (doubleRound (doubleRound start)))
  start.zipWith (· + ·) mixed

/-- Advances the state from which a key is drawn. -/
def advanceSeed (state : UInt64) : UInt64 :=
  state * 6364136223846793005 + 11634580027462260723

/-- The key word of a seed state. -/
def seedWord (state : UInt64) : UInt32 :=
  rotateRight ((((state >>> 18) ^^^ state) >>> 27).toUInt32) (state >>> 59).toUInt32

/-- The key of a seed: each word is taken from the state behind one more step. -/
def keyOfSeed (seed : UInt64) : Vector UInt32 8 :=
  let states := (List.range 8).map fun i => Nat.repeat advanceSeed (i + 1) seed
  Vector.ofFn fun i => seedWord (states.getD i 0)

end ChaCha

/-- A position in the stream of a key. -/
structure ChaCha where
  /-- The key. -/
  key : Vector UInt32 8
  /-- The number of the next block. -/
  counter : UInt64
  /-- What is left of the last block. -/
  pending : List UInt32

namespace ChaCha

/-- The start of the stream of a seed. -/
def ofSeed (seed : UInt64) : ChaCha := ⟨keyOfSeed seed, 0, []⟩

instance : Source ChaCha where
  next stream :=
    match stream.pending with
    | word :: rest => (word, { stream with pending := rest })
    | [] =>
      let words := block stream.key stream.counter
      (words.get 0, { stream with counter := stream.counter + 1, pending := words.toList.drop 1 })

end ChaCha

end Specimen.Random
