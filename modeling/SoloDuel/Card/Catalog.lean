import SoloDuel.Card.Data
import SoloDuel.Registry
/-!
# The card catalog

The table of species a duel is played with, by passcode.
-/

namespace SoloDuel

/-- The species a duel is played with. -/
abbrev CardCatalog := Registry CardId CardData

namespace CardCatalog

/-- A catalog without cards. -/
def empty : CardCatalog := Registry.empty "card catalog"

/-- Adds a species under its own passcode. -/
def register (catalog : CardCatalog) (card : CardData) : CardCatalog × Option RegistryFault :=
  Registry.register catalog card.id card

/-- Adds species in order up to the first one refused. -/
def registerAll (cards : List CardData) (catalog : CardCatalog) :
    CardCatalog × Option RegistryFault :=
  registerEach (cards.map fun card c => register c card) catalog

/-- Every species, ascending by passcode. -/
def cards (catalog : CardCatalog) : List CardData := catalog.toList.map Prod.snd

/-- The species that satisfy a predicate, ascending by passcode. -/
def filter (catalog : CardCatalog) (p : CardData → Bool) : List CardData :=
  catalog.cards.filter p

end CardCatalog

end SoloDuel
