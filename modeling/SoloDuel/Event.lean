import SoloDuel.Card.Data
import SoloDuel.Side
/-!
# Events

Steps report what happened as events. Triggers listen for events of one kind.
-/

namespace SoloDuel

/-- The kinds of event. -/
inductive EventKind where
  | spellActivated
  | trapActivated
  | effectActivated
  | cardsDrawn
  | cardDestroyed
  | lifeChanged
  deriving DecidableEq

namespace EventKind

/-- The name of a kind. -/
def text : EventKind → String
  | spellActivated => "spell_activated"
  | trapActivated => "trap_activated"
  | effectActivated => "effect_activated"
  | cardsDrawn => "cards_drawn"
  | cardDestroyed => "card_destroyed"
  | lifeChanged => "life_changed"

instance : ToString EventKind := ⟨text⟩

end EventKind

/-- Something that happened. -/
inductive Event where
  /-- A spell was activated. -/
  | spellActivated (card : CardId) (source : InstanceId)
  /-- A trap was activated. -/
  | trapActivated (card : CardId) (source : InstanceId)
  /-- An effect of a card on the field was activated. -/
  | effectActivated (effect : EffectId) (source : InstanceId)
  /-- Cards were drawn. -/
  | cardsDrawn (count : Nat)
  /-- A card was destroyed and went to the graveyard. -/
  | cardDestroyed (card : CardId) (source : InstanceId)
  /-- A side's life went up, or down where `delta` is negative. -/
  | lifeChanged (side : Side) (delta : Int64)
  deriving DecidableEq

namespace Event

/-- The kind of an event. -/
def kind : Event → EventKind
  | spellActivated .. => .spellActivated
  | trapActivated .. => .trapActivated
  | effectActivated .. => .effectActivated
  | cardsDrawn _ => .cardsDrawn
  | cardDestroyed .. => .cardDestroyed
  | lifeChanged .. => .lifeChanged

/-- The copy an event is about, if it is about one. -/
def source? : Event → Option InstanceId
  | spellActivated _ source
  | trapActivated _ source
  | effectActivated _ source
  | cardDestroyed _ source => some source
  | cardsDrawn _ | lifeChanged .. => none

end Event

end SoloDuel
