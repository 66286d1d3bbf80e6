import SoloDuel.Library.Passcode
import SoloDuel.Script.Basic
/-!
# The built-in effects

What the built-in spells, traps and monsters do when they are activated.
-/

namespace SoloDuel.Library

open Passcode

/-! ## Requirements -/

/-- Refuses when the deck has too few cards. -/
def requireDeck (s : Snapshot) (count : Nat) : Except Refusal Unit :=
  if count ≤ s.count .deck then .ok () else .error (.needsDeck count (s.count .deck))

/-- The number of cards in the hand besides the source. -/
def otherHandCards (s : Snapshot) (source : InstanceId) : Nat :=
  (s.zone .hand).countP fun c => c.id ≠ source

/-- Refuses when a zone has no card that a filter means. -/
def requireInZone (s : Snapshot) (zone : ZoneName) (filter : CardFilter) : Except Refusal Unit :=
  if (s.zone zone).any filter.accepts then .ok () else .error (.noSuitable zone)

/-- Warriors of level four or less. -/
def lowWarrior : CardFilter := .monster (some .warrior) (some 4)

/-- Field spells. -/
def fieldSpell : CardFilter := .spell .field

/-- Spells of any kind. -/
def anySpell : CardFilter := .kind .spell

/-! ## Spells and traps -/

/-- Draws two cards. -/
def potOfGreedEffect : CardEffect :=
  (CardEffect.new potOfGreed .normalSpell)
    |>.requiring (fun s _ => requireDeck s 2)
    |>.resolving fun _ _ => [.draw 2]

/-- Draws three cards and discards two. -/
def gracefulCharityEffect : CardEffect :=
  (CardEffect.new gracefulCharity .normalSpell)
    |>.requiring (fun s _ => requireDeck s 3)
    |>.resolving fun _ _ => [.draw 3, .discard 2]

/-- Draws a card and gives the opponent 1000 life. -/
def upstartGoblinEffect : CardEffect :=
  (CardEffect.new upstartGoblin .normalSpell)
    |>.requiring (fun s _ => requireDeck s 1)
    |>.resolving fun _ _ => [.draw 1, .gainLife .opponent 1000]

/-- Draws until there are three cards in hand; one copy a turn. -/
def cardOfDemiseEffect : CardEffect :=
  (CardEffect.new cardOfDemise .normalSpell .card)
    |>.requiring (fun s source => requireDeck s (3 - otherHandCards s source))
    |>.resolving fun _ _ => [.drawUntil 3]

/-- Adds a low warrior from the deck to the hand. -/
def reinforcementOfTheArmyEffect : CardEffect :=
  (CardEffect.new reinforcementOfTheArmy .normalSpell)
    |>.requiring (fun s _ => requireInZone s .deck lowWarrior)
    |>.resolving fun _ _ => [.search lowWarrior]

/-- Adds a field spell from the deck to the hand. -/
def terraformingEffect : CardEffect :=
  (CardEffect.new terraforming .normalSpell)
    |>.requiring (fun s _ => requireInZone s .deck fieldSpell)
    |>.resolving fun _ _ => [.search fieldSpell]

/-- Refuses when the hand cannot supply two discards besides the source, or the graveyard has no
spell. -/
def stoneExcavationRequirement (s : Snapshot) (source : InstanceId) : Except Refusal Unit :=
  if otherHandCards s source < 2 then .error (.needsTwoDiscards (otherHandCards s source))
  else requireInZone s .graveyard anySpell

/-- Discards two cards and adds a spell from the graveyard to the hand. -/
def magicalStoneExcavationEffect : CardEffect :=
  (CardEffect.new magicalStoneExcavation .normalSpell)
    |>.requiring stoneExcavationRequirement
    |>.resolving fun _ _ => [.discard 2, .addToHand .graveyard anySpell]

/-- Draws a card. -/
def jarOfGreedEffect : CardEffect :=
  (CardEffect.new jarOfGreed .normalTrap)
    |>.requiring (fun s _ => requireDeck s 1)
    |>.resolving fun _ _ => [.draw 1]

/-- Draws a card while there are three other cards in hand, written as a script. -/
def intoTheVoidScript : Script where
  card := intoTheVoid
  template := .normalSpell
  conditions := [.handAtLeast 3 true, .deckAtLeast 1]
  instructions := [.draw 1]

/-! ## Monsters -/

/-- The spell counters the Royal Magical Library holds at most, which are also the price of its
effect. -/
def libraryCounters : UInt32 := 3

/-- Refuses when the library has too few spell counters or the deck is empty. -/
def libraryRequirement (s : Snapshot) (source : InstanceId) : Except Refusal Unit :=
  let held :=
    match s.find? source with
    | some card => card.counter .spell
    | none => 0
  if held < libraryCounters then .error (.needsSpellCounters libraryCounters held)
  else if s.count .deck = 0 then .error .emptyDeck
  else .ok ()

/-- Draws a card for three spell counters. -/
def royalMagicalLibraryEffect : CardEffect :=
  (CardEffect.new royalMagicalLibrary .ignition)
    |>.requiring libraryRequirement
    |>.resolving fun _ source => [.removeCounters source .spell libraryCounters, .draw 1]

/-! ## All effects -/

/-- The effects of the built-in spells and traps, but for the one that is a script. -/
def spellEffects : List CardEffect :=
  [potOfGreedEffect, gracefulCharityEffect, upstartGoblinEffect, cardOfDemiseEffect,
    reinforcementOfTheArmyEffect, terraformingEffect, magicalStoneExcavationEffect,
    jarOfGreedEffect, .new magicalCitadelOfEndymion .fieldSpell, .new yami .fieldSpell,
    .new sogen .fieldSpell, .new toonWorld .continuousSpell]

end SoloDuel.Library
