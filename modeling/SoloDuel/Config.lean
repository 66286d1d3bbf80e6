import SoloDuel.Fault
/-!
# Configuration of a duel

What is settled before a duel starts. The defaults are the standard game.
-/

namespace SoloDuel

/-- What is settled before a duel starts. -/
structure DuelConfig where
  /-- The life each side starts with. -/
  startingLife : Int64 := 8000
  /-- The number of cards drawn before the first turn. -/
  openingHand : UInt64 := 5
  /-- How many cards the zones on the field hold. -/
  capacity : ZoneCapacity := {}
  /-- The number of normal summons and sets allowed in a turn. -/
  normalSummonsPerTurn : UInt32 := 1
  /-- The seed of every shuffle. -/
  seed : UInt64 := 0
  /-- Whether the deck is shuffled before the opening hand is drawn. -/
  shuffleOnStart : Bool := true
  deriving DecidableEq

namespace DuelConfig

/-- The configuration, if it can be played: life is positive and every zone on the field has a
slot. -/
def validated (c : DuelConfig) : Except EngineFault DuelConfig :=
  if c.startingLife ≤ 0 then .error (.config (.startingLife c.startingLife.toInt))
  else if c.capacity.monster = 0 ∨ c.capacity.spellTrap = 0 ∨ c.capacity.field = 0 then
    .error (.config .noSlot)
  else .ok c

end DuelConfig

end SoloDuel
