import SoloDuel.Activation.CardEffect
/-!
# Effect scripts

A script is a card effect written down as data: a template, conditions and instructions. Each
condition and instruction is of a kind, and a kind is given its meaning by a table.

* `Condition`, `Instruction` — what a script asks for and what it does.
* `ConditionKind`, `InstructionKind` — their kinds, the identifiers of the tables.
* `Script` — an effect as data.
-/

namespace SoloDuel

/-- What a script asks for. -/
inductive Condition where
  /-- Enough cards in the hand, perhaps without the source. -/
  | handAtLeast (count : UInt64) (excludingSource : Bool)
  /-- Enough cards in the deck. -/
  | deckAtLeast (count : UInt64)
  /-- Enough counters on the source. -/
  | countersAtLeast (kind : CounterKind) (count : UInt32)
  /-- The source face-up on the field. -/
  | onField
  /-- A phase. -/
  | inPhase (phase : Phase)
  /-- A card in a zone that a filter means. -/
  | zoneHas (zone : ZoneName) (filter : CardFilter)

/-- The kinds of condition. -/
inductive ConditionKind where
  | handAtLeast
  | deckAtLeast
  | countersAtLeast
  | onField
  | inPhase
  | zoneHas
  deriving DecidableEq

namespace ConditionKind

/-- The name of a kind. -/
def text : ConditionKind → String
  | handAtLeast => "hand_at_least"
  | deckAtLeast => "deck_at_least"
  | countersAtLeast => "counters_at_least"
  | onField => "on_field"
  | inPhase => "in_phase"
  | zoneHas => "zone_has"

instance : ToString ConditionKind := ⟨text⟩

/-- The place of a kind in an ascending listing. -/
def rank : ConditionKind → Nat
  | handAtLeast => 0
  | deckAtLeast => 1
  | countersAtLeast => 2
  | onField => 3
  | inPhase => 4
  | zoneHas => 5

instance : Identifier ConditionKind where
  rank := rank
  text := text
  rank_injective {a b} h := by cases a <;> cases b <;> first | rfl | cases h

end ConditionKind

/-- The kind of a condition. -/
def Condition.kind : Condition → ConditionKind
  | handAtLeast .. => .handAtLeast
  | deckAtLeast _ => .deckAtLeast
  | countersAtLeast .. => .countersAtLeast
  | onField => .onField
  | inPhase _ => .inPhase
  | zoneHas .. => .zoneHas

/-- What a script does. -/
inductive Instruction where
  | draw (count : UInt64)
  /-- Draw until the hand has a number of cards. -/
  | drawUntil (handSize : UInt64)
  /-- Have the player discard a number of cards. -/
  | discard (count : UInt64)
  | gainLife (side : Side) (amount : UInt32)
  | loseLife (side : Side) (amount : UInt32)
  /-- Place counters on the source. -/
  | addCounters (kind : CounterKind) (amount : UInt32) (limit : Option UInt32)
  /-- Remove counters from the source. -/
  | removeCounters (kind : CounterKind) (amount : UInt32)
  /-- Have the player add a card from the deck to the hand. -/
  | search (filter : CardFilter)
  /-- Have the player add a card from a zone to the hand. -/
  | addToHand (origin : ZoneName) (filter : CardFilter)
  | sendSourceToGraveyard

/-- The kinds of instruction. -/
inductive InstructionKind where
  | draw
  | drawUntil
  | discard
  | gainLife
  | loseLife
  | addCounters
  | removeCounters
  | search
  | addToHand
  | sendSourceToGraveyard
  deriving DecidableEq

namespace InstructionKind

/-- Every kind, ascending. -/
def all : List InstructionKind :=
  [draw, drawUntil, discard, gainLife, loseLife, addCounters, removeCounters, search, addToHand,
    sendSourceToGraveyard]

/-- The name of a kind. -/
def text : InstructionKind → String
  | draw => "draw"
  | drawUntil => "draw_until"
  | discard => "discard"
  | gainLife => "gain_life"
  | loseLife => "lose_life"
  | addCounters => "add_counters"
  | removeCounters => "remove_counters"
  | search => "search"
  | addToHand => "add_to_hand"
  | sendSourceToGraveyard => "send_source_to_graveyard"

instance : ToString InstructionKind := ⟨text⟩

/-- The place of a kind in an ascending listing. -/
def rank : InstructionKind → Nat
  | draw => 0
  | drawUntil => 1
  | discard => 2
  | gainLife => 3
  | loseLife => 4
  | addCounters => 5
  | removeCounters => 6
  | search => 7
  | addToHand => 8
  | sendSourceToGraveyard => 9

instance : Identifier InstructionKind where
  rank := rank
  text := text
  rank_injective {a b} h := by cases a <;> cases b <;> first | rfl | cases h

end InstructionKind

/-- The kind of an instruction. -/
def Instruction.kind : Instruction → InstructionKind
  | draw _ => .draw
  | drawUntil _ => .drawUntil
  | discard _ => .discard
  | gainLife .. => .gainLife
  | loseLife .. => .loseLife
  | addCounters .. => .addCounters
  | removeCounters .. => .removeCounters
  | search _ => .search
  | addToHand .. => .addToHand
  | sendSourceToGraveyard => .sendSourceToGraveyard

/-- A card effect written down as data. -/
structure Script where
  card : CardId
  template : ActivationTemplate
  once : OncePerTurn := .unlimited
  conditions : List Condition := []
  instructions : List Instruction

end SoloDuel
