import SoloDuel.Registry.Indexed
import SoloDuel.Step.Basic
/-!
# Triggers

A trigger listens for events of one kind and answers an event with steps to take. A trigger that
belongs to a card is active only while a copy of the card is face-up on the field.

* `Trigger` — what it listens for and how it answers.
* `TriggerTable.collect` — the steps with which a table of triggers answers an event, in ascending
  order of the triggers.
-/

namespace SoloDuel

/-- The steps to take after an event, given the snapshot after the step that reported it. -/
abbrev Collector := Snapshot → Event → List Step

namespace Collector

/-- Answers no event. -/
def silent : Collector := fun _ _ => []

end Collector

/-- An answer to events of one kind. -/
structure Trigger where
  id : TriggerId
  name : String
  /-- The species the trigger belongs to, if it belongs to one. -/
  card : Option CardId := none
  /-- The kind of event it listens for. -/
  event : EventKind
  /-- How it answers an event. -/
  fire : Collector

namespace Trigger

/-- Whether the trigger can fire. -/
def isActive (t : Trigger) (s : Snapshot) : Bool :=
  match t.card with
  | some card => s.hasFaceUp card
  | none => true

end Trigger

/-- Triggers by number, filed by the kind of event they listen for. -/
abbrev TriggerTable := IndexedRegistry TriggerId Trigger Trigger.event

namespace TriggerTable

/-- A table without triggers. -/
def empty : TriggerTable := IndexedRegistry.empty "triggers"

/-- Adds a trigger under its own number. -/
def register (table : TriggerTable) (t : Trigger) : TriggerTable × Option RegistryFault :=
  IndexedRegistry.register table t.id t

/-- The triggers that listen for a kind of event, in ascending order. -/
def listening (table : TriggerTable) (kind : EventKind) : List Trigger :=
  sortAscending (fun t => Identifier.rank t.id) (table.ofGroup kind)

/-- The steps with which the active triggers answer an event. -/
def collect (table : TriggerTable) : Collector := fun s event =>
  ((table.listening event.kind).filter (·.isActive s)).flatMap fun t => t.fire s event

end TriggerTable

end SoloDuel
