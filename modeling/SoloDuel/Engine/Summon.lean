import SoloDuel.Engine.Basic
/-!
# Summoning and setting

The commands that put a card from the hand on the field without activating it. Monsters of higher
level than four need tributes, which this game does not have.
-/

namespace SoloDuel

namespace Snapshot

/-- Refuses when the duel is over or it is not the main phase. -/
def requireMain (s : Snapshot) : Except Refusal Unit :=
  if s.isTerminal then .error .decided
  else if s.phase ≠ .main then .error (.onlyInMain s.phase)
  else .ok ()

/-- The copy with a number, which must be in one of the zones. -/
def cardIn (s : Snapshot) (id : InstanceId) (zones : List ZoneName) : Except Refusal CardInstance :=
  match s.find? id with
  | none => .error (.missing id)
  | some card =>
    if card.location ∈ zones then .ok card else .error (.isIn card.name card.location)

end Snapshot

namespace CardInstance

/-- Refuses a card that is no monster. -/
def requireMonster (card : CardInstance) : Except Refusal Unit :=
  if card.data.isMonster then .ok () else .error (.notMonster card.name)

end CardInstance

namespace Engine

/-- The highest level of a monster that is summoned without tributes. -/
def tributeFreeLevel : UInt8 := 4

/-- Puts a monster from the hand on the field as the turn's normal summon. -/
def summonFromHand (e : Engine) (s : Snapshot) (id : InstanceId) (kind : SummonKind)
    (placement : Placement) (verb : String) : Attempt := do
  s.requireMain
  let card ← s.cardIn id [.hand]
  card.requireMonster
  if tributeFreeLevel < card.data.level then
    throw (.needsTributes card.name card.data.level)
  if s.normalSummonsLeft = 0 then
    throw .noSummonLeft
  e.book.checkSummon s card kind
  let out ← s.setCard id .monsterZone placement
  return { out with
    state := out.state.useNormalSummon
    message := s!"{card.name} {verb}" }

/-- Summons a monster from the hand in attack position. -/
def normalSummon (e : Engine) (s : Snapshot) (id : InstanceId) : Attempt :=
  e.summonFromHand s id .normal .attack "normal summoned"

/-- Sets a monster from the hand face-down in defense position. -/
def setMonster (e : Engine) (s : Snapshot) (id : InstanceId) : Attempt :=
  e.summonFromHand s id .set .setMonster "set"

/-- Summons a monster from the hand or the graveyard, as far as the rules allow. -/
def specialSummon (e : Engine) (s : Snapshot) (id : InstanceId) : Attempt := do
  if s.isTerminal then
    throw .decided
  let card ← s.cardIn id [.hand, .graveyard]
  card.requireMonster
  e.book.checkSummon s card .special
  let out ← s.moveToField id .monsterZone .attack
  return { out with message := s!"{card.name} special summoned" }

/-- The zone a spell or trap is set in. -/
def settingZone (data : CardData) : ZoneName :=
  if data.spellType = some .field then .fieldZone else .spellTrapZone

/-- Sets a spell or trap from the hand face-down. -/
def setSpellTrap (_ : Engine) (s : Snapshot) (id : InstanceId) : Attempt := do
  s.requireMain
  let card ← s.cardIn id [.hand]
  if card.data.isMonster then
    throw (.isMonster card.name)
  s.setCard id (settingZone card.data) .set

end Engine

end SoloDuel
