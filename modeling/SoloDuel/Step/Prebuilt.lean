import SoloDuel.Operation.Counter
import SoloDuel.Operation.Life
import SoloDuel.Operation.Move
import SoloDuel.Step.Basic
/-!
# Prebuilt steps

The steps that card effects are made of, each over one operation.
-/

namespace SoloDuel.Step

/-- Draws cards. -/
def draw (count : UInt64) : Step where
  id := "draw"
  summary := s!"Draw {count} card(s)"
  run s _ := s.draw count.toNat

/-- Draws until the hand has a number of cards. -/
def drawUntil (handSize : UInt64) : Step where
  id := "draw_until"
  summary := s!"Draw until you have {handSize} cards in hand"
  run s _ := s.drawUntil handSize.toNat

/-- Has the player discard a number of cards that a filter means. -/
def discardMatching (count : UInt64) (filter : CardFilter) : Step :=
  { id := "discard"
    summary := s!"Discard {count} card(s)"
    run := fun s chosen => s.discard chosen : Step }.asking
    (.fromZone .hand filter count count)

/-- Has the player discard a number of cards. -/
def discard (count : UInt64) : Step := discardMatching count .any

/-- Has the player add a card from the deck that a filter means to the hand. -/
def search (filter : CardFilter) : Step :=
  { id := "search"
    summary := "Add 1 card from your deck to your hand"
    run := fun s chosen =>
      match chosen with
      | [] => .error .noneChosen
      | id :: _ => s.search id : Step }.asking
    (.fromZone .deck filter 1 1)

/-- Has the player add a card from a zone that a filter means to the hand. -/
def addToHand (zone : ZoneName) (filter : CardFilter) : Step :=
  { id := "add_to_hand"
    summary := s!"Add 1 card from the {zone} to your hand"
    run := fun s chosen =>
      match chosen with
      | [] => .error .noneChosen
      | id :: _ => s.addToHand id zone : Step }.asking
    (.fromZone zone filter 1 1)

/-- Sends a card to the graveyard. -/
def sendToGraveyard (id : InstanceId) : Step where
  id := "send_to_graveyard"
  summary := "Send to the graveyard"
  notice := .silent
  run s _ := s.sendToGraveyard id

/-- Moves a card to a zone on the field. -/
def moveToField (id : InstanceId) (zone : ZoneName) (placement : Placement) : Step where
  id := "move_to_field"
  summary := s!"Place on the {zone}"
  run s _ := s.moveToField id zone placement

/-- Places counters on a card, up to a limit. -/
def addCounters (id : InstanceId) (kind : CounterKind) (amount : UInt32) (limit : Option UInt32) :
    Step where
  id := "add_counters"
  summary := s!"Place {amount} {kind}(s)"
  run s _ := s.addCounters id kind amount limit

/-- Removes counters from a card. -/
def removeCounters (id : InstanceId) (kind : CounterKind) (amount : UInt32) : Step where
  id := "remove_counters"
  summary := s!"Remove {amount} {kind}(s)"
  run s _ := s.removeCounters id kind amount

/-- Raises a side's life. -/
def gainLife (side : Side) (amount : UInt32) : Step where
  id := "gain_life"
  summary := s!"{side} gains {amount} life points"
  run s _ := s.gainLife side amount

/-- Lowers a side's life. -/
def loseLife (side : Side) (amount : UInt32) : Step where
  id := "lose_life"
  summary := s!"{side} loses {amount} life points"
  run s _ := s.loseLife side amount

/-- Changes nothing and tells the player something. -/
def notify (id message : String) : Step where
  id := id
  summary := message
  run s _ := .ok { state := s, message := some message }

end SoloDuel.Step
