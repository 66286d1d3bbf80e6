import SoloDuel.Activation.CardEffect
/-!
# The table of effects

The effects of all cards. A card may have one effect of each category.
-/

namespace SoloDuel

/-- The effects of all cards, by category and card. -/
structure EffectTable where
  activation : Registry CardId CardEffect
  ignition : Registry CardId CardEffect

namespace EffectTable

/-- A table without effects. -/
def empty : EffectTable := ⟨Registry.empty "activation effects", Registry.empty "ignition effects"⟩

/-- The effects of a category. -/
def ofCategory (table : EffectTable) : EffectCategory → Registry CardId CardEffect
  | .activation => table.activation
  | .ignition => table.ignition

/-- Adds an effect under its own card and category. -/
def register (table : EffectTable) (e : CardEffect) : EffectTable × Option RegistryFault :=
  match e.category with
  | .activation =>
    let (activation, fault) := table.activation.register e.card e
    ({ table with activation := activation }, fault)
  | .ignition =>
    let (ignition, fault) := table.ignition.register e.card e
    ({ table with ignition := ignition }, fault)

/-- The effect of a card and category. -/
def get (table : EffectTable) (card : CardId) (category : EffectCategory) :
    Except RegistryFault CardEffect :=
  (table.ofCategory category).get card

/-- Whether a card has an effect of a category. -/
def contains (table : EffectTable) (card : CardId) (category : EffectCategory) : Bool :=
  (table.ofCategory category).contains card

/-- The number of effects. -/
def size (table : EffectTable) : Nat := table.activation.size + table.ignition.size

/-- Whether there are no effects. -/
def isEmpty (table : EffectTable) : Bool := table.size = 0

/-- The cards with an effect of a category, ascending. -/
def ids (table : EffectTable) (category : EffectCategory) : List CardId :=
  (table.ofCategory category).ids

end EffectTable

end SoloDuel
