import SoloDuel.Ident
/-!
# Card species

What is printed on a card. Everything here is fixed for the whole duel; what changes from copy to
copy is in `CardInstance`.

* `CardData` — a species, with one way to make each kind: `monster`, `spell`, `trap`.
* `EffectId` — one effect of a species.
-/

namespace SoloDuel

/-- Broad card type. -/
inductive CardKind where
  | monster
  | spell
  | trap
  deriving DecidableEq

/-- The frame a card is printed on. -/
inductive FrameType where
  | normal
  | effect
  | fusion
  | ritual
  | spell
  | trap
  deriving DecidableEq

/-- The kinds of spell. -/
inductive SpellType where
  | normal
  | quickPlay
  | continuous
  | field
  | equip
  | ritual
  deriving DecidableEq

/-- The kinds of trap. -/
inductive TrapType where
  | normal
  | continuous
  | counter
  deriving DecidableEq

/-- The type line of a monster. -/
inductive Race where
  | dragon
  | fairy
  | fiend
  | machine
  | spellcaster
  | warrior
  | wingedBeast
  | aqua
  deriving DecidableEq

/-- The numbers and the type line printed on a monster. -/
structure MonsterStats where
  level : UInt8
  attack : Int32
  defense : Int32
  race : Race
  deriving DecidableEq

/-- One card species. -/
structure CardData where
  id : CardId
  name : String
  kind : CardKind
  frame : FrameType
  /-- The kind of spell, on a spell. -/
  spellType : Option SpellType
  /-- The kind of trap, on a trap. -/
  trapType : Option TrapType
  /-- The printed numbers, on a monster. -/
  stats : Option MonsterStats
  deriving DecidableEq

namespace CardData

/-- A monster. -/
def monster (id : CardId) (name : String) (frame : FrameType) (stats : MonsterStats) :
    CardData where
  id := id
  name := name
  kind := .monster
  frame := frame
  spellType := none
  trapType := none
  stats := some stats

/-- A spell. -/
def spell (id : CardId) (name : String) (type : SpellType) : CardData where
  id := id
  name := name
  kind := .spell
  frame := .spell
  spellType := some type
  trapType := none
  stats := none

/-- A trap. -/
def trap (id : CardId) (name : String) (type : TrapType) : CardData where
  id := id
  name := name
  kind := .trap
  frame := .trap
  spellType := none
  trapType := some type
  stats := none

/-- Whether the card is a monster. -/
def isMonster (c : CardData) : Bool := c.kind = .monster

/-- Whether the card is a spell. -/
def isSpell (c : CardData) : Bool := c.kind = .spell

/-- Whether the card is a trap. -/
def isTrap (c : CardData) : Bool := c.kind = .trap

/-- The printed level; a card without stats counts as level 0. -/
def level (c : CardData) : UInt8 :=
  match c.stats with
  | some stats => stats.level
  | none => 0

/-- The printed type line, on a card with stats. -/
def race (c : CardData) : Option Race := c.stats.map (·.race)

end CardData

/-- Whether an effect comes from playing the card or is used by a card already on the field. -/
inductive EffectCategory where
  | activation
  | ignition
  deriving DecidableEq

namespace EffectCategory

/-- How messages show a category. -/
def text : EffectCategory → String
  | activation => "activation"
  | ignition => "ignition"

instance : ToString EffectCategory := ⟨text⟩

/-- The place of a category in an ascending listing. -/
def rank : EffectCategory → Nat
  | activation => 0
  | ignition => 1

end EffectCategory

/-- One effect of a card species. A species has at most one effect of each category. -/
structure EffectId where
  card : CardId
  category : EffectCategory
  deriving DecidableEq

namespace EffectId

/-- How messages show an effect. -/
def text (e : EffectId) : String := s!"{e.card}/{e.category}"

instance : ToString EffectId := ⟨text⟩

end EffectId

end SoloDuel
