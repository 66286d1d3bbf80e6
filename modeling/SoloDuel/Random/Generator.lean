import SoloDuel.Random.ChaCha
/-!
# Seeded shuffles

A generator is a seed and a place in the seed's word stream. A shuffle first draws its swaps, which
depend on the generator and on the number of cards alone, and then carries them out.

* `RngState` — what a snapshot keeps of a generator.
* `Generator.index` — an index below a bound, by drawing words until one is fair.
* `Generator.swaps`, `applySwaps`, `Generator.shuffle` — the swaps of a shuffle, and the shuffle.
-/

namespace SoloDuel

/-- What a snapshot keeps of a generator. -/
structure RngState where
  /-- The seed the generator was made from. -/
  seed : UInt64
  /-- The place in the seed's word stream; the generator takes it modulo the stream's period. -/
  wordPos : Nat
  deriving DecidableEq

/-- A generator: a seed and a place in the seed's word stream. -/
structure Generator where
  seed : UInt64
  position : Nat
  deriving DecidableEq

namespace Generator

/-- The generator at the start of a seed's word stream. -/
def ofSeed (seed : UInt64) : Generator := ⟨seed, 0⟩

/-- The generator a snapshot kept. -/
def ofState (state : RngState) : Generator := ⟨state.seed, state.wordPos % ChaCha.period⟩

/-- What a snapshot keeps of a generator. -/
def state (g : Generator) : RngState := ⟨g.seed, g.position⟩

/-- Draws the next word. -/
def next (g : Generator) : UInt32 × Generator :=
  (ChaCha.word (ChaCha.Key.ofSeed g.seed) g.position,
    { g with position := (g.position + 1) % ChaCha.period })

/-- The largest low half of a product with which a word is a fair draw below `bound`: the bound,
moved left until its top bit is that of a word, less one. -/
def fairLimit (bound : Nat) : Nat := (bound <<< (31 - bound.log2)) - 1

/-- Draws words until one is fair and gives the index that it stands for: the high half of its
product with the bound. Draws at most `fuel` words. -/
def indexWithin (bound : Nat) : Nat → Generator → Nat × Generator
  | 0, g => (0, g)
  | fuel + 1, g =>
    let (w, g') := g.next
    let product := w.toNat * bound
    if product % UInt32.size ≤ fairLimit bound then (product / UInt32.size, g')
    else indexWithin bound fuel g'

/-- Draws an index below `bound`. A whole period of the stream is tried. -/
def index (g : Generator) (bound : Nat) : Nat × Generator := indexWithin bound ChaCha.period g

/-- Draws the swaps that shuffle `count` cards: each card from the last down to the second changes
places with one that is drawn at or below it. -/
def swaps : Nat → Generator → List (Nat × Nat) × Generator
  | 0, g => ([], g)
  | 1, g => ([], g)
  | i + 2, g =>
    let (j, h) := g.index (i + 2)
    let (rest, k) := swaps (i + 1) h
    ((i + 1, j) :: rest, k)

end Generator

/-- Carries out swaps of places, in order. -/
def applySwaps {α : Type} (swaps : List (Nat × Nat)) (cards : List α) : List α :=
  (swaps.foldl (fun row (i, j) => row.swapIfInBounds i j) cards.toArray).toList

/-- Shuffles a list. -/
def Generator.shuffle {α : Type} (g : Generator) (cards : List α) : List α × Generator :=
  let (drawn, g') := Generator.swaps cards.length g
  (applySwaps drawn cards, g')

end SoloDuel
