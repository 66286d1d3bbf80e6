import SoloDuel.Event
import SoloDuel.Refusal
import SoloDuel.Snapshot.Basic
/-!
# Outcomes

What an operation on a snapshot produces: a new snapshot, perhaps a message, and the events that
happened — or a refusal, which comes without a snapshot, so that a refused operation leaves nothing
half done.
-/

namespace SoloDuel

/-- What a successful operation produces. -/
structure Outcome where
  /-- The snapshot afterwards. -/
  state : Snapshot
  /-- What the player is told. -/
  message : Option String := none
  /-- What happened, in order. -/
  events : List Event := []
  deriving DecidableEq

/-- What an operation produces: an outcome or a refusal. -/
abbrev Attempt := Except Refusal Outcome

end SoloDuel
