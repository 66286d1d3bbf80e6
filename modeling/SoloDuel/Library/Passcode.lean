import SoloDuel.Ident
/-!
# Passcodes

The passcodes of the built-in cards. Each is the number printed on the card it is named for.
-/

namespace SoloDuel.Passcode

/-! ## Spells and traps, and the monsters that go with them -/

def potOfGreed : CardId := ⟨55144522⟩
def gracefulCharity : CardId := ⟨79571449⟩
def upstartGoblin : CardId := ⟨70368879⟩
def cardOfDemise : CardId := ⟨59750328⟩
def reinforcementOfTheArmy : CardId := ⟨32807846⟩
def terraforming : CardId := ⟨73628505⟩
def magicalStoneExcavation : CardId := ⟨98494543⟩
def intoTheVoid : CardId := ⟨93946239⟩
def jarOfGreed : CardId := ⟨83968380⟩
def magicalCitadelOfEndymion : CardId := ⟨39910367⟩
def royalMagicalLibrary : CardId := ⟨70791313⟩
def yami : CardId := ⟨59197169⟩
def toonWorld : CardId := ⟨15259703⟩
def sogen : CardId := ⟨86318356⟩

/-! ## Exodia -/

def exodia : CardId := ⟨33396948⟩
def rightArm : CardId := ⟨70903634⟩
def leftArm : CardId := ⟨7902349⟩
def rightLeg : CardId := ⟨8124921⟩
def leftLeg : CardId := ⟨44519536⟩

/-- Exodia and its four limbs. -/
def exodiaPieces : List CardId := [exodia, rightArm, leftArm, rightLeg, leftLeg]

/-! ## Monsters with a continuous rule -/

def harpieLady : CardId := ⟨76812113⟩
def harpieLady1 : CardId := ⟨91932350⟩
def harpieLady2 : CardId := ⟨27927359⟩
def harpieLady3 : CardId := ⟨54415063⟩
def spellCanceller : CardId := ⟨84636823⟩
def vanitysFiend : CardId := ⟨47084486⟩
def cyberDragon : CardId := ⟨70095154⟩
def toonMermaid : CardId := ⟨65458948⟩

/-! ## Monsters without one -/

def celticGuardian : CardId := ⟨91152256⟩
def geminiElf : CardId := ⟨69140098⟩
def summonedSkull : CardId := ⟨70781052⟩
def darkMagician : CardId := ⟨46986414⟩
def goblinAttackForce : CardId := ⟨78658564⟩
def hystericFairy : CardId := ⟨21297224⟩

end SoloDuel.Passcode
