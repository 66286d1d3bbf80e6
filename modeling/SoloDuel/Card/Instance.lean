import SoloDuel.Card.Data
import SoloDuel.Zone.Name
/-!
# Card copies

One physical copy of a card: its number, its species, the zone it is in and, on the field, a
`FieldState`.

* `FieldState` — face, battle position, counters and activations of one stay on the field.
* `CardInstance.movedTo` — the only way a copy changes zone: field state is made afresh on
  entering a field zone and dropped on leaving the field.
-/

namespace SoloDuel

/-- Which way a card on the field lies. -/
inductive Face where
  | up
  | down
  deriving DecidableEq

/-- The battle position of a monster. -/
inductive BattlePosition where
  | attack
  | defense
  deriving DecidableEq

/-- The kinds of counter. -/
inductive CounterKind where
  /-- Spell counters. -/
  | spell
  /-- Any other kind, told apart by its number. -/
  | generic (number : UInt16)
  deriving DecidableEq

namespace CounterKind

/-- How messages show a kind of counter. -/
def text : CounterKind → String
  | spell => "spell counter"
  | generic number => s!"counter #{number}"

instance : ToString CounterKind := ⟨text⟩

end CounterKind

/-- A pile of counters of one kind. -/
structure Counter where
  kind : CounterKind
  count : UInt32
  deriving DecidableEq

/-- What is kept of a card only while it is on the field. -/
structure FieldState where
  face : Face
  /-- The battle position; spells and traps have none. -/
  position : Option BattlePosition
  /-- Set or summoned during the current turn. -/
  placedThisTurn : Bool := false
  /-- The counters on the card, in the order their kinds arrived. -/
  counters : List Counter := []
  /-- The effects activated this turn during this stay, in order. -/
  activated : List EffectId := []
  deriving DecidableEq

/-- Sets the pile of one kind in a list of piles. An empty pile is taken away. -/
def Counter.put (kind : CounterKind) (count : UInt32) : List Counter → List Counter
  | [] => if count = 0 then [] else [⟨kind, count⟩]
  | pile :: rest =>
    if pile.kind = kind then
      if count = 0 then rest else { pile with count := count } :: rest
    else pile :: Counter.put kind count rest

namespace FieldState

/-- Whether the card lies face-up. -/
def isFaceUp (f : FieldState) : Bool := f.face = .up

/-- How many counters of a kind the card has. -/
def counter (f : FieldState) (kind : CounterKind) : UInt32 :=
  match f.counters.find? (·.kind = kind) with
  | some pile => pile.count
  | none => 0

/-- The state with the number of counters of one kind replaced. -/
def setCounter (f : FieldState) (kind : CounterKind) (count : UInt32) : FieldState :=
  { f with counters := Counter.put kind count f.counters }

/-- Whether the effect was activated this turn during this stay. -/
def hasActivated (f : FieldState) (effect : EffectId) : Bool := f.activated.contains effect

/-- The state with an activation recorded, once. -/
def markActivated (f : FieldState) (effect : EffectId) : FieldState :=
  if f.hasActivated effect then f else { f with activated := f.activated ++ [effect] }

/-- The state with everything that lasts only for a turn forgotten. -/
def resetForTurn (f : FieldState) : FieldState :=
  { f with placedThisTurn := false, activated := [] }

end FieldState

/-- How a card lies when it enters the field. -/
structure Placement where
  face : Face
  position : Option BattlePosition
  deriving DecidableEq

namespace Placement

/-- Face-up with no battle position. -/
def faceUp : Placement := ⟨.up, none⟩

/-- Face-down with no battle position, as spells and traps are set. -/
def set : Placement := ⟨.down, none⟩

/-- Face-up in attack position. -/
def attack : Placement := ⟨.up, some .attack⟩

/-- Face-down in defense position, as monsters are set. -/
def setMonster : Placement := ⟨.down, some .defense⟩

/-- The field state of a card that enters the field this way. -/
def fresh (p : Placement) : FieldState where
  face := p.face
  position := p.position

end Placement

/-- One physical copy of a card. -/
structure CardInstance where
  /-- The number of the copy, the same for the whole duel. -/
  id : InstanceId
  /-- The species. -/
  data : CardData
  /-- The zone the copy is in. -/
  location : ZoneName
  /-- The state kept while the copy is on the field. -/
  field : Option FieldState
  deriving DecidableEq

namespace CardInstance

/-- The copy in another zone. On the field it gets fresh field state; elsewhere it has none. -/
def movedTo (c : CardInstance) (zone : ZoneName) (placement : Placement) : CardInstance :=
  { c with
    location := zone
    field := if zone.isOnField then some placement.fresh else none }

/-- A new copy in a zone, face-up if that zone is on the field. -/
def new (id : InstanceId) (data : CardData) (zone : ZoneName) : CardInstance where
  id := id
  data := data
  location := zone
  field := if zone.isOnField then some Placement.faceUp.fresh else none

/-- The passcode of the copy's species. -/
def cardId (c : CardInstance) : CardId := c.data.id

/-- The printed name. -/
def name (c : CardInstance) : String := c.data.name

/-- Whether the copy has field state. -/
def isOnField (c : CardInstance) : Bool := c.field.isSome

/-- Whether the copy is on the field and face-up. -/
def isFaceUp (c : CardInstance) : Bool := c.field.any (·.isFaceUp)

/-- How many counters of a kind the copy has; off the field none. -/
def counter (c : CardInstance) (kind : CounterKind) : UInt32 :=
  match c.field with
  | some state => state.counter kind
  | none => 0

/-- The copy with its field state changed, if it has any. -/
def mapField (f : FieldState → FieldState) (c : CardInstance) : CardInstance :=
  { c with field := c.field.map f }

end CardInstance

end SoloDuel
