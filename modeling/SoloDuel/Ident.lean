/-!
# Identifiers

Four kinds of number name things in a duel: a card species, one physical copy of a card, a
continuous rule and a trigger. Each is a type of its own, so that one cannot be passed for
another.

* `Identifier` — what a table needs of its keys: a place in an ascending listing and a text for
  messages.
* `CardId`, `InstanceId`, `RuleId`, `TriggerId` — the four numbers.
-/

namespace SoloDuel

/-- A type of identifiers. Listings are ascending in `rank`, which tells identifiers apart, and
messages show `text`. -/
class Identifier (κ : Type) where
  /-- The place of an identifier in an ascending listing. -/
  rank : κ → Nat
  /-- How messages show an identifier. -/
  text : κ → String
  /-- Different identifiers have different ranks. -/
  rank_injective : ∀ {a b : κ}, rank a = rank b → a = b

/-- The printed passcode of a card species. -/
structure CardId where
  /-- The passcode. -/
  number : UInt32
  deriving DecidableEq

/-- One physical copy of a card. A copy keeps its number through every move of a duel. -/
structure InstanceId where
  /-- The number given to the copy when the deck was laid out. -/
  number : UInt32
  deriving DecidableEq

/-- A continuous rule. -/
structure RuleId where
  /-- The number the rule is registered under. -/
  number : UInt32
  deriving DecidableEq

/-- A trigger on an event. -/
structure TriggerId where
  /-- The number the trigger is registered under. -/
  number : UInt32
  deriving DecidableEq

namespace CardId

/-- How messages show a card species. -/
def text (c : CardId) : String := s!"Card({c.number})"

instance : ToString CardId := ⟨text⟩

instance : Identifier CardId where
  rank c := c.number.toNat
  text := text
  rank_injective {a b} h := by
    cases a; cases b; exact congrArg CardId.mk (UInt32.toNat_inj.mp h)

end CardId

namespace InstanceId

/-- How messages show a physical copy. -/
def text (i : InstanceId) : String := s!"Instance({i.number})"

instance : ToString InstanceId := ⟨text⟩

instance : Identifier InstanceId where
  rank i := i.number.toNat
  text := text
  rank_injective {a b} h := by
    cases a; cases b; exact congrArg InstanceId.mk (UInt32.toNat_inj.mp h)

/-- The number of the first copy laid out. -/
def first : InstanceId := ⟨1⟩

/-- The number given out after this one. -/
def next (i : InstanceId) : InstanceId := ⟨i.number + 1⟩

end InstanceId

namespace RuleId

/-- How messages show a rule. -/
def text (r : RuleId) : String := s!"Rule({r.number})"

instance : ToString RuleId := ⟨text⟩

instance : Identifier RuleId where
  rank r := r.number.toNat
  text := text
  rank_injective {a b} h := by
    cases a; cases b; exact congrArg RuleId.mk (UInt32.toNat_inj.mp h)

end RuleId

namespace TriggerId

/-- How messages show a trigger. -/
def text (t : TriggerId) : String := s!"Trigger({t.number})"

instance : ToString TriggerId := ⟨text⟩

instance : Identifier TriggerId where
  rank t := t.number.toNat
  text := text
  rank_injective {a b} h := by
    cases a; cases b; exact congrArg TriggerId.mk (UInt32.toNat_inj.mp h)

end TriggerId

end SoloDuel
