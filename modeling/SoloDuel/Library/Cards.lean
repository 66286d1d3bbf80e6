import SoloDuel.Card.Data
import SoloDuel.Library.Passcode
/-!
# The built-in cards

What is printed on the cards that come with the game.
-/

namespace SoloDuel.Library

open Passcode

/-- The built-in cards. -/
def cards : List CardData :=
  [.spell potOfGreed "Pot of Greed" .normal,
    .spell gracefulCharity "Graceful Charity" .normal,
    .spell upstartGoblin "Upstart Goblin" .normal,
    .spell cardOfDemise "Card of Demise" .normal,
    .spell reinforcementOfTheArmy "Reinforcement of the Army" .normal,
    .spell terraforming "Terraforming" .normal,
    .spell magicalStoneExcavation "Magical Stone Excavation" .normal,
    .spell intoTheVoid "Into the Void" .normal,
    .spell magicalCitadelOfEndymion "Magical Citadel of Endymion" .field,
    .spell yami "Yami" .field,
    .spell sogen "Sogen" .field,
    .spell toonWorld "Toon World" .continuous,
    .trap jarOfGreed "Jar of Greed" .normal,
    .monster royalMagicalLibrary "Royal Magical Library" .effect ⟨4, 0, 2000, .spellcaster⟩,
    .monster exodia "Exodia the Forbidden One" .effect ⟨3, 1000, 1000, .spellcaster⟩,
    .monster rightArm "Right Arm of the Forbidden One" .normal ⟨1, 200, 300, .spellcaster⟩,
    .monster leftArm "Left Arm of the Forbidden One" .normal ⟨1, 200, 300, .spellcaster⟩,
    .monster rightLeg "Right Leg of the Forbidden One" .normal ⟨1, 200, 300, .spellcaster⟩,
    .monster leftLeg "Left Leg of the Forbidden One" .normal ⟨1, 200, 300, .spellcaster⟩,
    .monster harpieLady "Harpie Lady" .normal ⟨4, 1300, 1400, .wingedBeast⟩,
    .monster harpieLady1 "Harpie Lady 1" .effect ⟨4, 1300, 1400, .wingedBeast⟩,
    .monster harpieLady2 "Harpie Lady 2" .effect ⟨4, 1300, 1400, .wingedBeast⟩,
    .monster harpieLady3 "Harpie Lady 3" .effect ⟨4, 1300, 1400, .wingedBeast⟩,
    .monster spellCanceller "Spell Canceller" .effect ⟨5, 1800, 1600, .machine⟩,
    .monster vanitysFiend "Vanity's Fiend" .effect ⟨6, 2400, 1200, .fiend⟩,
    .monster cyberDragon "Cyber Dragon" .effect ⟨5, 2100, 1600, .machine⟩,
    .monster toonMermaid "Toon Mermaid" .effect ⟨4, 1400, 1500, .aqua⟩,
    .monster celticGuardian "Celtic Guardian" .normal ⟨4, 1400, 1200, .warrior⟩,
    .monster geminiElf "Gemini Elf" .normal ⟨4, 1900, 900, .spellcaster⟩,
    .monster summonedSkull "Summoned Skull" .normal ⟨6, 2500, 1200, .fiend⟩,
    .monster darkMagician "Dark Magician" .normal ⟨7, 2500, 2100, .spellcaster⟩,
    .monster goblinAttackForce "Goblin Attack Force" .effect ⟨4, 2300, 0, .warrior⟩,
    .monster hystericFairy "Hysteric Fairy" .effect ⟨4, 1800, 500, .fairy⟩]

end SoloDuel.Library
