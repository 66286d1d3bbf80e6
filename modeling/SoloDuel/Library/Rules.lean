import SoloDuel.Library.Effects
import SoloDuel.Rule.Query
/-!
# The built-in rules and triggers

The continuous rules printed on the built-in cards, and the triggers that place spell counters. Each
is registered under the passcode of its card.
-/

namespace SoloDuel.Library

open Passcode

/-! ## Rules -/

/-- The player wins with all five pieces of Exodia in hand. -/
def exodiaVictory : Rule where
  id := ⟨exodia.number⟩
  name := "Exodia the Forbidden One"
  category := .victoryCondition
  isEffect := false
  canApply _ ctx :=
    match ctx with
    | .victory .player => true
    | _ => false
  permits s _ := exodiaPieces.all fun piece => (s.zone .hand).any fun c => c.cardId = piece

/-- A numbered Harpie Lady counts as "Harpie Lady" on the field and in the graveyard. -/
def harpieLadyName (card : CardId) : Rule where
  id := ⟨card.number⟩
  name := "Harpie Lady name"
  category := .nameOverride
  canApply _ ctx := ctx.card?.any fun c => c.cardId = card ∧ (c.isOnField ∨ c.location = .graveyard)
  apply _ _ _ := .name "Harpie Lady"

/-- What Yami adds to attack and defense of a monster of a race. -/
def yamiBonus : Race → Int32
  | .fiend | .spellcaster => 200
  | .fairy => -200
  | _ => 0

/-- Yami changes attack and defense of face-up monsters by race, but not below zero. -/
def yamiModifier : Rule where
  id := ⟨yami.number⟩
  name := "Yami"
  category := .statModifier
  canApply s ctx :=
    match ctx.card? with
    | none => false
    | some c =>
      c.location = .monsterZone && c.isFaceUp && c.data.race.any (yamiBonus · ≠ 0) &&
        s.hasFaceUp yami
  apply _ _ value :=
    match value with
    | .stats stats =>
      let bonus := yamiBonus stats.race
      .stats { stats with
        attack := max (stats.attack + bonus) 0
        defense := max (stats.defense + bonus) 0 }
    | .name name => .name name

/-- No spell is activated while Spell Canceller is face-up. -/
def spellCancellerLock : Rule where
  id := ⟨spellCanceller.number⟩
  name := "Spell Canceller"
  category := .actionPermission
  canApply s ctx :=
    match ctx with
    | .action (.activateSpell ..) => s.hasFaceUp spellCanceller
    | _ => false
  permits _ _ := false

/-- Nothing is special summoned while Vanity's Fiend is face-up. -/
def vanitysFiendLock : Rule where
  id := ⟨vanitysFiend.number⟩
  name := "Vanity's Fiend"
  category := .summonPermission
  canApply s ctx :=
    match ctx with
    | .summon _ .special => s.hasFaceUp vanitysFiend
    | _ => false
  permits _ _ := false

/-- Cyber Dragon is special summoned from the hand only while the monster zone is empty. -/
def cyberDragonCondition : Rule where
  id := ⟨cyberDragon.number⟩
  name := "Cyber Dragon"
  category := .summonCondition
  isEffect := false
  canApply _ ctx :=
    match ctx with
    | .summon c .special => c.cardId = cyberDragon ∧ c.location = .hand
    | _ => false
  permits s _ := (s.zone .monsterZone).isEmpty

/-- Toon Mermaid is destroyed while no Toon World is face-up. -/
def toonMermaidUpkeep : Rule where
  id := ⟨toonMermaid.number⟩
  name := "Toon Mermaid"
  category := .selfDestruction
  canApply _ ctx := ctx.card?.any fun c => c.cardId = toonMermaid ∧ c.isOnField
  permits s _ := !s.hasFaceUp toonWorld

/-- The Magical Citadel of Endymion loses a spell counter instead of being destroyed. -/
def citadelProtection : Rule where
  id := ⟨magicalCitadelOfEndymion.number⟩
  name := "Magical Citadel of Endymion"
  category := .actionReplacement
  canApply _ ctx :=
    match ctx with
    | .destroy c => c.cardId = magicalCitadelOfEndymion ∧ 0 < c.counter .spell
    | _ => false
  replace s ctx := ctx.card?.map fun c => do
    let out ← s.removeCounters c.id .spell 1
    return { out with message := s!"{c.name} removed a spell counter instead" }

/-- The built-in rules, in the order they are asked. -/
def rules : List Rule :=
  [exodiaVictory, harpieLadyName harpieLady1, harpieLadyName harpieLady2,
    harpieLadyName harpieLady3, yamiModifier, spellCancellerLock, vanitysFiendLock,
    cyberDragonCondition, toonMermaidUpkeep, citadelProtection]

/-! ## Triggers -/

/-- Places a spell counter, up to a limit, on every face-up copy of a card other than the spell that
was activated. -/
def spellCounters (card : CardId) (limit : Option UInt32) : Collector := fun s event =>
  match event with
  | .spellActivated _ source =>
    ((s.faceUp card).filter (· ≠ source)).map fun id => .addCounters id .spell 1 limit
  | _ => []

/-- The Royal Magical Library gains a spell counter for every spell, up to three. -/
def libraryTrigger : Trigger where
  id := ⟨royalMagicalLibrary.number⟩
  name := "Royal Magical Library counter"
  card := some royalMagicalLibrary
  event := .spellActivated
  fire := spellCounters royalMagicalLibrary (some libraryCounters)

/-- The Magical Citadel of Endymion gains a spell counter for every spell. -/
def citadelTrigger : Trigger where
  id := ⟨magicalCitadelOfEndymion.number⟩
  name := "Magical Citadel of Endymion counter"
  card := some magicalCitadelOfEndymion
  event := .spellActivated
  fire := spellCounters magicalCitadelOfEndymion none

end SoloDuel.Library
