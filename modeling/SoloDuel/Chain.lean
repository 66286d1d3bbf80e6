import SoloDuel.Card.Data
/-!
# Chain blocks

Activations resolve one at a time, so no play of this game builds a chain. A snapshot carries the
blocks it was given.
-/

namespace SoloDuel

/-- How fast an effect is. -/
inductive SpellSpeed where
  | one
  | two
  | three
  deriving DecidableEq

namespace SpellSpeed

/-- The speed as a number. -/
def value : SpellSpeed → Nat
  | one => 1
  | two => 2
  | three => 3

end SpellSpeed

/-- One link of a chain. -/
structure ChainBlock where
  card : CardId
  source : InstanceId
  category : EffectCategory
  speed : SpellSpeed
  deriving DecidableEq

end SoloDuel
