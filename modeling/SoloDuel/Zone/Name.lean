/-!
# Zones

The seven places a card can be in, and how many cards the ones on the field hold.

* `ZoneName` — the zones, in storage order.
* `ZoneEnd` — the end of a zone a card is put on.
* `ZoneCapacity` — the limits of the zones on the field.
-/

namespace SoloDuel

/-- A place for cards. -/
inductive ZoneName where
  | deck
  | hand
  | monsterZone
  | spellTrapZone
  | fieldZone
  | graveyard
  | banished
  deriving DecidableEq

/-- The end of a zone a card is put on. A deck is drawn from the top. -/
inductive ZoneEnd where
  | top
  | bottom
  deriving DecidableEq

/-- How many cards each zone on the field holds. -/
structure ZoneCapacity where
  /-- Slots of the monster zone. -/
  monster : UInt64 := 5
  /-- Slots of the spell/trap zone. -/
  spellTrap : UInt64 := 5
  /-- Slots of the field zone. -/
  field : UInt64 := 1
  deriving DecidableEq

namespace ZoneName

/-- Every zone, in storage order. -/
def all : List ZoneName :=
  [deck, hand, monsterZone, spellTrapZone, fieldZone, graveyard, banished]

/-- Whether a zone is on the field. -/
def isOnField : ZoneName → Bool
  | monsterZone | spellTrapZone | fieldZone => true
  | _ => false

/-- How many cards a zone holds, where it has a limit. -/
def capacity (limits : ZoneCapacity) : ZoneName → Option UInt64
  | monsterZone => some limits.monster
  | spellTrapZone => some limits.spellTrap
  | fieldZone => some limits.field
  | _ => none

/-- How messages show a zone. -/
def text : ZoneName → String
  | deck => "deck"
  | hand => "hand"
  | monsterZone => "monster zone"
  | spellTrapZone => "spell/trap zone"
  | fieldZone => "field zone"
  | graveyard => "graveyard"
  | banished => "banished"

instance : ToString ZoneName := ⟨text⟩

theorem mem_all (z : ZoneName) : z ∈ all := by cases z <;> decide

end ZoneName

end SoloDuel
