import SoloDuel.Engine.Summon
import SoloDuel.Engine.Turn
import SoloDuel.Operation.Counter
import SoloDuel.Operation.Life
/-!
# Plays as data

What can be done to a snapshot besides activating an effect, as data: the operations, which the
rules have no say in, and the commands of an engine.

* `Operation.perform`, `Command.perform` — what a play does.
-/

namespace SoloDuel

/-- A change of a snapshot that the rules have no say in. -/
inductive Operation where
  | moveCard (id : InstanceId) (target : ZoneName) (placement : Placement)
  | draw (count : UInt64)
  | drawUntil (handSize : UInt64)
  | discard (ids : List InstanceId)
  | search (id : InstanceId)
  | addToHand (id : InstanceId) (origin : ZoneName)
  | sendToGraveyard (id : InstanceId)
  | banish (id : InstanceId)
  | moveToField (id : InstanceId) (target : ZoneName) (placement : Placement)
  | setCard (id : InstanceId) (target : ZoneName) (placement : Placement)
  | flipFaceUp (id : InstanceId)
  | shuffleDeck
  | addCounters (id : InstanceId) (kind : CounterKind) (amount : UInt32) (limit : Option UInt32)
  | removeCounters (id : InstanceId) (kind : CounterKind) (amount : UInt32)
  | setCounters (id : InstanceId) (kind : CounterKind) (count : UInt32) (limit : Option UInt32)
  | gainLife (side : Side) (amount : UInt32)
  | loseLife (side : Side) (amount : UInt32)

/-- What an operation does to a snapshot. -/
def Operation.perform (s : Snapshot) : Operation → Attempt
  | moveCard id target placement => s.moveCard id target placement
  | draw count => s.draw count.toNat
  | drawUntil handSize => s.drawUntil handSize.toNat
  | discard ids => s.discard ids
  | search id => s.search id
  | addToHand id origin => s.addToHand id origin
  | sendToGraveyard id => s.sendToGraveyard id
  | banish id => s.banish id
  | moveToField id target placement => s.moveToField id target placement
  | setCard id target placement => s.setCard id target placement
  | flipFaceUp id => s.flipFaceUp id
  | shuffleDeck => s.shuffleDeck
  | addCounters id kind amount limit => s.addCounters id kind amount limit
  | removeCounters id kind amount => s.removeCounters id kind amount
  | setCounters id kind count limit => s.setCounters id kind count limit
  | gainLife side amount => s.gainLife side amount
  | loseLife side amount => s.loseLife side amount

/-- A command of an engine other than an activation. -/
inductive Command where
  | advancePhase
  | advanceTo (phase : Phase)
  | drawForTurn
  | settle
  | evaluateVictory (drawDue : Bool)
  | normalSummon (id : InstanceId)
  | setMonster (id : InstanceId)
  | specialSummon (id : InstanceId)
  | setSpellTrap (id : InstanceId)
  | destroy (id : InstanceId)
  | applySelfDestruction
  deriving DecidableEq

namespace Command

/-- Whether a command reports a message and events; the others give a snapshot only. -/
def reports : Command → Bool
  | advancePhase | advanceTo _ | drawForTurn | settle | evaluateVictory _ => false
  | _ => true

/-- What a command does to a snapshot. -/
def perform (e : Engine) (s : Snapshot) : Command → Attempt
  | advancePhase => .ok { state := s.advancePhase }
  | advanceTo phase => .ok { state := s.advanceTo phase }
  | drawForTurn => (e.drawForTurn s).map fun next => { state := next }
  | settle => (e.settle s).map fun next => { state := next }
  | evaluateVictory drawDue => .ok { state := e.evaluateVictory s drawDue }
  | normalSummon id => e.normalSummon s id
  | setMonster id => e.setMonster s id
  | specialSummon id => e.specialSummon s id
  | setSpellTrap id => e.setSpellTrap s id
  | destroy id => e.book.destroy s id
  | applySelfDestruction => e.book.applySelfDestruction s

end Command

end SoloDuel
