/-!
# The two sides of a duel

The player owns every card; of the opponent only the life total is kept.

* `Side` — the player or the opponent.
* `BySide` — one value for each side.
-/

namespace SoloDuel

/-- One side of the duel. -/
inductive Side where
  /-- The side that owns and plays every card. -/
  | player
  /-- The side of which only the life total is kept. -/
  | opponent
  deriving DecidableEq

namespace Side

/-- Both sides, the player first. -/
def all : List Side := [player, opponent]

/-- The side across the table. -/
def other : Side → Side
  | player => opponent
  | opponent => player

/-- How messages show a side. -/
def text : Side → String
  | player => "player"
  | opponent => "opponent"

instance : ToString Side := ⟨text⟩

end Side

/-- One value for each side. -/
structure BySide (α : Type) where
  /-- The player's value. -/
  player : α
  /-- The opponent's value. -/
  opponent : α
  deriving DecidableEq

namespace BySide

variable {α : Type}

/-- The value a function gives each side. -/
def ofFn (f : Side → α) : BySide α := ⟨f .player, f .opponent⟩

/-- The same value for both sides. -/
def both (a : α) : BySide α := ofFn fun _ => a

/-- The value of one side. -/
def get (m : BySide α) : Side → α
  | .player => m.player
  | .opponent => m.opponent

/-- The map with one side's value replaced. -/
def set (m : BySide α) (side : Side) (a : α) : BySide α :=
  match side with
  | .player => { m with player := a }
  | .opponent => { m with opponent := a }

/-- Each side with its value, the player first. -/
def toList (m : BySide α) : List (Side × α) := Side.all.map fun side => (side, m.get side)

@[simp] theorem get_set_self (m : BySide α) (side : Side) (a : α) :
    (m.set side a).get side = a := by
  cases side <;> rfl

theorem get_set_of_ne (m : BySide α) {side other : Side} (h : other ≠ side) (a : α) :
    (m.set side a).get other = m.get other := by
  cases side <;> cases other <;> first | rfl | exact absurd rfl h

@[simp] theorem get_set_other (m : BySide α) (side : Side) (a : α) :
    (m.set side.other a).get side = m.get side := by
  cases side <;> rfl

end BySide

end SoloDuel
