/-!
# The ChaCha word stream

ChaCha with eight rounds turns a key of eight words into a stream of words. The stream is cut into
blocks of sixteen words, numbered by a 64-bit counter, so it has `2 ^ 68` words before it comes
round; a word is found from its place alone.

* `ChaCha.Key.ofSeed` — the key that stands for a 64-bit seed.
* `ChaCha.block` — one block of the stream.
* `ChaCha.word` — the word at a place of the stream.
-/

namespace SoloDuel.ChaCha

/-- The key of a stream: eight words. -/
abbrev Key := Vector UInt32 8

/-- The sixteen words the rounds work on. -/
abbrev Block := Vector UInt32 16

/-- Turns a word to the left; the bits that fall out come in again on the right. -/
def rotateLeft (w : UInt32) (bits : UInt32) : UInt32 := (w <<< bits) ||| (w >>> (32 - bits))

/-- Turns a word to the right; the bits that fall out come in again on the left. -/
def rotateRight (w : UInt32) (bits : UInt32) : UInt32 :=
  if bits = 0 then w else (w >>> bits) ||| (w <<< (32 - bits))

/-! ## The key of a seed -/

/-- One step of the linear congruential generator that stretches a seed. -/
def stretch (s : UInt64) : UInt64 := s * 6364136223846793005 + 11634580027462260723

/-- The word a stretched seed is read as: its high bits, folded and turned by its top five. -/
def fold (s : UInt64) : UInt32 :=
  rotateRight (((s >>> 18) ^^^ s) >>> 27).toUInt32 (s >>> 59).toUInt32

/-- The key that stands for a seed: eight steps of the stretching generator, each read as a
word. -/
def Key.ofSeed (seed : UInt64) : Key :=
  let s1 := stretch seed
  let s2 := stretch s1
  let s3 := stretch s2
  let s4 := stretch s3
  let s5 := stretch s4
  let s6 := stretch s5
  let s7 := stretch s6
  let s8 := stretch s7
  #v[fold s1, fold s2, fold s3, fold s4, fold s5, fold s6, fold s7, fold s8]

/-! ## A block -/

/-- A quarter round on the words at four places. -/
def quarter (b : Block) (i j k l : Fin 16) : Block :=
  let x := b[i] + b[j]
  let w := rotateLeft (b[l] ^^^ x) 16
  let z := b[k] + w
  let y := rotateLeft (b[j] ^^^ z) 12
  let x := x + y
  let w := rotateLeft (w ^^^ x) 8
  let z := z + w
  let y := rotateLeft (y ^^^ z) 7
  (((b.set i x).set j y).set k z).set l w

/-- A round down the columns and a round along the diagonals. -/
def doubleRound (b : Block) : Block :=
  let b := quarter b 0 4 8 12
  let b := quarter b 1 5 9 13
  let b := quarter b 2 6 10 14
  let b := quarter b 3 7 11 15
  let b := quarter b 0 5 10 15
  let b := quarter b 1 6 11 12
  let b := quarter b 2 7 8 13
  quarter b 3 4 9 14

/-- What the rounds start from: four constants, the key, the number of the block and two zeros. -/
def start (key : Key) (counter : UInt64) : Block :=
  #v[0x61707865, 0x3320646e, 0x79622d32, 0x6b206574,
     key[0], key[1], key[2], key[3], key[4], key[5], key[6], key[7],
     counter.toUInt32, (counter >>> 32).toUInt32, 0, 0]

/-- One block of the stream: eight rounds, added to what they started from. -/
def block (key : Key) (counter : UInt64) : Block :=
  let input := start key counter
  let mixed := doubleRound (doubleRound (doubleRound (doubleRound input)))
  Vector.zipWith (· + ·) mixed input

/-- The number of words in the stream before it comes round: sixteen for each value of the
counter. -/
def period : Nat := 16 * UInt64.size

/-- The word at a place of the stream. -/
def word (key : Key) (place : Nat) : UInt32 :=
  (block key (UInt64.ofNat (place / 16))).get ⟨place % 16, Nat.mod_lt _ (by decide)⟩

end SoloDuel.ChaCha
