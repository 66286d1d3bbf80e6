import Mathlib.Data.List.Perm.Basic
import SoloDuel.Proofs.Board.Fields
/-!
# Shuffles by place

A shuffle draws its swaps before it looks at a card. So it is a list of places, which the generator
and the number of cards settle, and cards are laid out in the order in which it names theirs.

* `Reorders` — cards in the order of a list of places; `Reorders.perm` — they are the same cards.
* `Generator.places` — the places of a shuffle; `reorders_shuffle` says that it follows them.
* `Generator.Within` — the position is one of the word stream; a generator that is kept and taken up
  again is the same one then, and drawing from it stays within the stream.
* `Generator.afterShuffles` — one generator that has shuffled some decks, one after another.
-/

namespace SoloDuel

/-! ## Places -/

/-- The cards of `before` lie in `after` in the order in which `places` names their places, and it
names each place once. -/
structure Reorders {α : Type} (places : List Nat) (before after : List α) : Prop where
  once : places.Perm (List.range before.length)
  named : after.map some = places.map (before[·]?)

theorem map_getElem?_range {α : Type} (cards : List α) :
    (List.range cards.length).map (cards[·]?) = cards.map some := by
  apply List.ext_getElem
  · simp
  · intro k _ hk
    simp only [List.length_map] at hk
    simp [hk]

/-- Cards in another order are the same cards. -/
theorem Reorders.perm {α : Type} {places : List Nat} {before after : List α}
    (h : Reorders places before after) : after.Perm before := by
  have hnamed : (after.map some).Perm (before.map some) := by
    rw [h.named, ← map_getElem?_range]
    exact h.once.map _
  exact (List.map_perm_map_iff fun _ _ => Option.some.inj).mp hnamed

namespace Generator

variable {g : Generator}

/-- The places that a shuffle of some number of cards puts into another order. -/
def places (g : Generator) (count : Nat) : List Nat := (g.shuffle (List.range count)).1

theorem places_perm (g : Generator) (count : Nat) : (g.places count).Perm (List.range count) :=
  Board.shuffle_perm g (List.range count)

/-- **A shuffle follows its places**, whatever the cards are. -/
theorem reorders_shuffle {α : Type} (g : Generator) (cards : List α) :
    Reorders (g.places cards.length) cards (g.shuffle cards).1 where
  once := g.places_perm cards.length
  named := by
    have hcards := Board.shuffle_map some g cards
    have hplaces := Board.shuffle_map (cards[·]?) g (List.range cards.length)
    rw [map_getElem?_range, hcards] at hplaces
    exact congrArg Prod.fst hplaces

example : (ofSeed 1).places 3 = [2, 0, 1] := by decide +kernel

/-- How far a shuffle draws depends on the number of cards alone. -/
theorem shuffle_snd {α : Type} (g : Generator) (cards : List α) :
    (g.shuffle cards).2 = (swaps cards.length g).2 := rfl

/-! ## Keeping a generator -/

/-- The position is one of the word stream. -/
def Within (g : Generator) : Prop := g.position < ChaCha.period

/-- **A generator that is kept and taken up again is the same one.** -/
theorem ofState_state (h : g.Within) : ofState g.state = g := by
  simp [ofState, state, Nat.mod_eq_of_lt h]

theorem within_ofSeed (seed : UInt64) : (ofSeed seed).Within := by
  simp [Within, ofSeed, ChaCha.period]

theorem within_next (g : Generator) : g.next.2.Within := Nat.mod_lt _ (by decide)

theorem Within.indexWithin (h : g.Within) (bound fuel : Nat) :
    (indexWithin bound fuel g).2.Within := by
  induction fuel generalizing g with
  | zero => exact h
  | succ fuel ih =>
    simp only [Generator.indexWithin]
    split
    · exact within_next g
    · exact ih (within_next g)

theorem Within.index (h : g.Within) (bound : Nat) : (g.index bound).2.Within :=
  h.indexWithin bound ChaCha.period

-- The equations that `swaps` comes with are out of reach here: generating them runs `index`, which
-- tries a whole period of the stream.
theorem swaps_add_two (g : Generator) (i : Nat) :
    swaps (i + 2) g =
      ((i + 1, (g.index (i + 2)).1) :: (swaps (i + 1) (g.index (i + 2)).2).1,
        (swaps (i + 1) (g.index (i + 2)).2).2) := by
  delta swaps
  exact Eq.refl _

theorem Within.swaps (h : g.Within) (count : Nat) : (swaps count g).2.Within := by
  induction count generalizing g with
  | zero => exact h
  | succ last ih =>
    cases last with
    | zero => exact h
    | succ i =>
      rw [swaps_add_two]
      exact ih (h.index (i + 2))

/-- Shuffling stays within the stream. -/
theorem Within.shuffle {α : Type} (h : g.Within) (cards : List α) : (g.shuffle cards).2.Within :=
  h.swaps cards.length

/-! ## Several shuffles -/

/-- The generator after it has shuffled some decks, one after another. -/
def afterShuffles {α : Type} (g : Generator) (decks : List (List α)) : Generator :=
  decks.foldl (fun h deck => (h.shuffle deck).2) g

theorem afterShuffles_append {α : Type} (g : Generator) (decks more : List (List α)) :
    g.afterShuffles (decks ++ more) = (g.afterShuffles decks).afterShuffles more :=
  List.foldl_append

theorem Within.afterShuffles {α : Type} (h : g.Within) (decks : List (List α)) :
    (g.afterShuffles decks).Within := by
  induction decks generalizing g with
  | nil => exact h
  | cons deck decks ih => exact ih (h.shuffle deck)

end Generator

end SoloDuel
