import SoloDuel.Card.Instance
import SoloDuel.Phase
/-!
# Refusals

What a player tries may be refused. A refusal is an ordinary value: a code, which programs branch
on, and a message, which people read. Every refusal of the game is made by a constructor of this
module, so that a code and its wording are chosen in one place.
-/

namespace SoloDuel

/-- Why something was refused. -/
inductive RefusalCode where
  /-- A requirement is not met: phase, once per turn, a missing target. -/
  | conditionsNotMet
  /-- There are too few counters to pay with. -/
  | insufficientCounters
  /-- There are too few cards in the deck. -/
  | insufficientDeck
  /-- There are too few cards in the hand. -/
  | insufficientHand
  /-- The zone a card would go to is full. -/
  | zoneFull
  /-- A continuous rule forbids it. -/
  | actionProhibited
  /-- The card is not where it has to be. -/
  | invalidSource
  /-- The chosen cards are not an answer to what was asked. -/
  | invalidSelection
  /-- The step that waits cannot be cancelled. -/
  | notCancelable
  deriving DecidableEq

namespace RefusalCode

/-- The name of a code. -/
def text : RefusalCode → String
  | conditionsNotMet => "conditions_not_met"
  | insufficientCounters => "insufficient_counters"
  | insufficientDeck => "insufficient_deck"
  | insufficientHand => "insufficient_hand"
  | zoneFull => "zone_full"
  | actionProhibited => "action_prohibited"
  | invalidSource => "invalid_source"
  | invalidSelection => "invalid_selection"
  | notCancelable => "not_cancelable"

instance : ToString RefusalCode := ⟨text⟩

end RefusalCode

/-- Something was refused. -/
structure Refusal where
  code : RefusalCode
  message : String
  deriving DecidableEq

namespace Refusal

/-- A refusal on one line: its code and its message. -/
def text (r : Refusal) : String := s!"{r.code}: {r.message}"

/-! ## Finding and moving cards -/

/-- No zone holds the copy. -/
def missing (id : InstanceId) : Refusal :=
  ⟨.invalidSource, s!"{id} does not exist"⟩

/-- The copy is in another zone than the one asked for. -/
def elsewhere (id : InstanceId) (location wanted : ZoneName) : Refusal :=
  ⟨.invalidSource, s!"{id} is in the {location}, not the {wanted}"⟩

/-- The zone has no room. -/
def full (zone : ZoneName) : Refusal :=
  ⟨.zoneFull, s!"the {zone} is full"⟩

/-- A zone on the field is asked for. -/
def notFieldZone (zone : ZoneName) : Refusal :=
  ⟨.invalidSource, s!"the {zone} is not on the field"⟩

/-- The copy is asked to be on the field. -/
def notOnField (id : InstanceId) : Refusal :=
  ⟨.invalidSource, s!"{id} is not on the field"⟩

/-- The copy is asked to be face-up on the field. -/
def notFaceUp (id : InstanceId) : Refusal :=
  ⟨.invalidSource, s!"{id} is not face-up on the field"⟩

/-- The deck is too small for the draw. -/
def shortDraw (count available : Nat) : Refusal :=
  ⟨.insufficientDeck, s!"cannot draw {count} with {available} in the deck"⟩

/-- The deck ran out in the middle of a draw. -/
def drawnOut : Refusal :=
  ⟨.insufficientDeck, "deck is empty"⟩

/-- No card is left to draw. -/
def emptyDeck : Refusal :=
  ⟨.insufficientDeck, "the deck is empty"⟩

/-! ## Counters -/

/-- Only cards on the field hold counters. -/
def holdsNoCounters (id : InstanceId) : Refusal :=
  ⟨.invalidSource, s!"{id} is not on the field and cannot hold counters"⟩

/-- The copy has fewer counters than are to be removed. -/
def fewCounters (id : InstanceId) (held : UInt32) (kind : CounterKind) (amount : UInt32) :
    Refusal :=
  ⟨.insufficientCounters, s!"{id} has {held} {kind}(s), needs {amount}"⟩

/-- An effect needs more counters on its source. -/
def needsCounters (count : UInt32) (kind : CounterKind) (held : UInt32) : Refusal :=
  ⟨.insufficientCounters, s!"needs {count} {kind}(s), has {held}"⟩

/-- A cost in spell counters cannot be paid. -/
def needsSpellCounters (count held : UInt32) : Refusal :=
  ⟨.insufficientCounters, s!"needs {count} spell counters, has {held}"⟩

/-! ## Selections -/

/-- Too few or too many cards were chosen. -/
def wrongCount (min max : UInt64) (chosen : Nat) : Refusal :=
  ⟨.invalidSelection, s!"expected between {min} and {max} cards, got {chosen}"⟩

/-- A card was chosen more than once. -/
def chosenTwice (id : InstanceId) : Refusal :=
  ⟨.invalidSelection, s!"{id} selected twice"⟩

/-- A card was chosen that is no candidate. -/
def notCandidate (id : InstanceId) : Refusal :=
  ⟨.invalidSelection, s!"{id} is not a valid choice"⟩

/-- Cards were chosen for a step that takes none. -/
def takesNone (summary : String) (chosen : Nat) : Refusal :=
  ⟨.invalidSelection, s!"{summary} takes no cards, got {chosen}"⟩

/-- No card was chosen for a step that takes one. -/
def noneChosen : Refusal :=
  ⟨.invalidSelection, "no card selected"⟩

/-- A step is reached that fewer cards can answer than it asks for. -/
def fewCandidates (summary : String) (min : UInt64) (available : Nat) : Refusal :=
  ⟨.invalidSelection, s!"{summary} needs {min} card(s), only {available} available"⟩

/-- A step that has to be answered was cancelled. -/
def notCancelable (summary : String) : Refusal :=
  ⟨.notCancelable, s!"{summary} cannot be cancelled"⟩

/-! ## Conditions of an effect -/

/-- The deck is too small for the effect. -/
def needsDeck (count available : Nat) : Refusal :=
  ⟨.insufficientDeck, s!"needs {count} card(s) in the deck, has {available}"⟩

/-- The hand is too small for the effect. -/
def needsHand (count : UInt64) (available : Nat) : Refusal :=
  ⟨.insufficientHand, s!"needs {count} other card(s) in hand, has {available}"⟩

/-- The hand cannot supply two cards to discard. -/
def needsTwoDiscards (available : Nat) : Refusal :=
  ⟨.insufficientHand, s!"needs 2 other cards in hand to discard, has {available}"⟩

/-- The effect has no target in the zone. -/
def noSuitable (zone : ZoneName) : Refusal :=
  ⟨.conditionsNotMet, s!"no suitable card in the {zone}"⟩

/-- The effect belongs to another phase. -/
def onlyInPhase (phase : Phase) : Refusal :=
  ⟨.conditionsNotMet, s!"only in the {phase} phase"⟩

/-- A handler was given a condition of another kind. -/
def wrongCondition (expected got : String) : Refusal :=
  ⟨.conditionsNotMet, s!"{expected} handler cannot evaluate {got}"⟩

/-! ## Activation -/

/-- The duel is over. -/
def decided : Refusal :=
  ⟨.conditionsNotMet, "the duel is already decided"⟩

/-- The card does not fit the way its effect is activated. -/
def wrongCard (name label : String) : Refusal :=
  ⟨.conditionsNotMet, s!"{name} is not a {label} for this effect"⟩

/-- The effect was used this turn. -/
def oncePerTurn (name : String) : Refusal :=
  ⟨.conditionsNotMet, s!"{name} can only be used once per turn"⟩

/-- A continuous rule forbids the activation. -/
def activationForbidden (name : String) : Refusal :=
  ⟨.actionProhibited, s!"{name} cannot be activated right now"⟩

/-- The card is activated in the main phase only. -/
def activatedInMain (name : String) (phase : Phase) : Refusal :=
  ⟨.conditionsNotMet, s!"{name} can only be activated in the main phase, not the {phase} phase"⟩

/-- An ignition effect needs its card face-up on the field. -/
def mustBeFaceUp (name : String) : Refusal :=
  ⟨.invalidSource, s!"{name} must be face-up on the field"⟩

/-- The card was set this turn and has to wait. -/
def setThisTurn (name : String) : Refusal :=
  ⟨.conditionsNotMet, s!"{name} cannot be activated the turn it was set"⟩

/-- The card is not activated from that zone. -/
def activatedFrom (name : String) (location : ZoneName) : Refusal :=
  ⟨.invalidSource, s!"{name} cannot be activated from the {location}"⟩

/-! ## Summoning, setting and drawing for the turn -/

/-- The card is not in a zone the command takes it from. -/
def isIn (name : String) (location : ZoneName) : Refusal :=
  ⟨.invalidSource, s!"{name} is in the {location}"⟩

/-- The command belongs to the main phase. -/
def onlyInMain (phase : Phase) : Refusal :=
  ⟨.conditionsNotMet, s!"only in the main phase, not the {phase} phase"⟩

/-- Only monsters are summoned. -/
def notMonster (name : String) : Refusal :=
  ⟨.invalidSource, s!"{name} is not a monster"⟩

/-- Monsters are not set as spells and traps are. -/
def isMonster (name : String) : Refusal :=
  ⟨.invalidSource, s!"{name} is a monster"⟩

/-- The monster's level asks for tributes. -/
def needsTributes (name : String) (level : UInt8) : Refusal :=
  ⟨.conditionsNotMet, s!"{name} is level {level} and needs tributes"⟩

/-- The turn's normal summons are used up. -/
def noSummonLeft : Refusal :=
  ⟨.conditionsNotMet, "no normal summon left this turn"⟩

/-- A summon condition of the card does not hold. -/
def summonCondition (name rule : String) : Refusal :=
  ⟨.conditionsNotMet, s!"{name} cannot be summoned this way ({rule})"⟩

/-- A continuous rule forbids the summon. -/
def summonForbidden (name rule : String) : Refusal :=
  ⟨.actionProhibited, s!"{rule} forbids summoning {name}"⟩

/-- The turn draw belongs to the draw phase. -/
def drawnInDraw (phase : Phase) : Refusal :=
  ⟨.conditionsNotMet, s!"the turn draw happens in the draw phase, not the {phase} phase"⟩

end Refusal

end SoloDuel
