import SoloDuel.Rule.Query
import SoloDuel.Step.Prebuilt
/-!
# Activation templates

A template holds what all cards of a type share about being activated: when and from where, what is
checked, and how the card is put into play.

| template | phase | activated from | leaves the field |
|---|---|---|---|
| normal spell | main | hand, or set | yes |
| quick-play spell | main from the hand, any when set | hand, or set | yes |
| continuous spell | main | hand, or set | no |
| field spell | main | hand, or set | no |
| normal trap | any | set in an earlier turn | yes |
| ignition | main | face-up on the field | no |

* `ActivationTemplate.validate` — every check of a template, in order.
* `ActivationTemplate.steps` — the steps that put the card into play and announce it.
-/

namespace SoloDuel

/-- The ways a card is activated. -/
inductive ActivationTemplate where
  | normalSpell
  | quickPlaySpell
  | continuousSpell
  | fieldSpell
  | normalTrap
  | ignition
  deriving DecidableEq

/-- How often an effect may be used in a turn. -/
inductive OncePerTurn where
  /-- As often as one likes. -/
  | unlimited
  /-- Once, counting all copies of the card together. -/
  | card
  /-- Once for each copy. -/
  | copy
  deriving DecidableEq

namespace ActivationTemplate

/-- The category of an effect with the template. -/
def category : ActivationTemplate → EffectCategory
  | ignition => .ignition
  | _ => .activation

/-- The speed of an effect with the template. -/
def speed : ActivationTemplate → SpellSpeed
  | quickPlaySpell | normalTrap => .two
  | _ => .one

/-- Whether the card goes to the graveyard once its effect is done. -/
def isSelfContained : ActivationTemplate → Bool
  | normalSpell | quickPlaySpell | normalTrap => true
  | _ => false

/-- The zone the card is in while it is active; an ignition effect leaves it where it is. -/
def destination : ActivationTemplate → Option ZoneName
  | fieldSpell => some .fieldZone
  | ignition => none
  | _ => some .spellTrapZone

/-- Whether a species fits the template. -/
def fits (t : ActivationTemplate) (data : CardData) : Bool :=
  match t with
  | normalSpell => data.spellType = some .normal
  | quickPlaySpell => data.spellType = some .quickPlay
  | continuousSpell => data.spellType = some .continuous
  | fieldSpell => data.spellType = some .field
  | normalTrap => data.trapType = some .normal
  | ignition => true

/-- What messages call the template. -/
def label : ActivationTemplate → String
  | normalSpell => "normal spell"
  | quickPlaySpell => "quick-play spell"
  | continuousSpell => "continuous spell"
  | fieldSpell => "field spell"
  | normalTrap => "normal trap"
  | ignition => "ignition effect"

/-- Whether the template is one of a spell. -/
def isSpell : ActivationTemplate → Bool
  | normalTrap | ignition => false
  | _ => true

/-- Whether a set card of the template has to wait for the next turn. -/
def waitsATurn : ActivationTemplate → Bool
  | normalTrap | quickPlaySpell => true
  | _ => false

/-- The activation the rules are asked about. -/
def action (t : ActivationTemplate) (effect : EffectId) (source : InstanceId) : ActionKind :=
  match t with
  | normalTrap => .activateTrap effect.card source
  | ignition => .activateEffect effect source
  | _ => .activateSpell effect.card source

/-- The event that announces the activation. -/
def event (t : ActivationTemplate) (effect : EffectId) (source : InstanceId) : Event :=
  match t with
  | normalTrap => .trapActivated effect.card source
  | ignition => .effectActivated effect source
  | _ => .spellActivated effect.card source

/-! ## Checks -/

/-- Refuses outside the main phase, except for traps and for set quick-play spells. -/
def checkPhase (t : ActivationTemplate) (s : Snapshot) (card : CardInstance) :
    Except Refusal Unit :=
  let anyPhase : Bool :=
    match t with
    | normalTrap => true
    | quickPlaySpell => card.isOnField && !card.isFaceUp
    | _ => false
  if anyPhase ∨ s.phase = .main then .ok () else .error (.activatedInMain card.name s.phase)

/-- Refuses a card that is not where the template activates it from: face-up on the field for an
ignition effect; in the hand, with room in the destination, for a spell; set in the destination
otherwise, in an earlier turn where the template waits. -/
def checkLocation (t : ActivationTemplate) (s : Snapshot) (card : CardInstance) :
    Except Refusal Unit :=
  match t.destination with
  | none =>
    if card.isOnField ∧ card.isFaceUp then .ok () else .error (.mustBeFaceUp card.name)
  | some destination =>
    match card.field with
    | none =>
      if card.location = .hand ∧ t.isSpell then
        if s.hasSpace destination then .ok () else .error (.full destination)
      else .error (.activatedFrom card.name card.location)
    | some state =>
      if card.location = destination ∧ ¬ state.isFaceUp then
        if t.waitsATurn ∧ state.placedThisTurn then .error (.setThisTurn card.name) else .ok ()
      else .error (.activatedFrom card.name card.location)

/-- Whether the effect was used as often as it may be this turn. -/
def isUsedUp (s : Snapshot) (source : InstanceId) (effect : EffectId) : OncePerTurn → Bool
  | .unlimited => false
  | .card => s.cardUsed effect.card
  | .copy => s.effectUsed source effect

/-- Refuses an activation that the template does not allow. What is checked is, in this order, that
the duel is not over, that the card exists, the phase, the card's type, its location, its use this
turn, and that no rule forbids it. -/
def validate (t : ActivationTemplate) (book : RuleBook) (s : Snapshot) (source : InstanceId)
    (effect : EffectId) (once : OncePerTurn) : Except Refusal Unit :=
  if s.isTerminal then .error .decided
  else
    match s.find? source with
    | none => .error (.missing source)
    | some card => do
      t.checkPhase s card
      if card.cardId ≠ effect.card ∨ ¬ t.fits card.data then
        throw (.wrongCard card.name t.label)
      t.checkLocation s card
      if isUsedUp s source effect once then
        throw (.oncePerTurn card.name)
      if ¬ book.isActionPermitted s (t.action effect source) then
        throw (.activationForbidden card.name)

/-! ## Steps -/

/-- Marks an effect as used, in the way its restriction counts. -/
def mark (s : Snapshot) (source : InstanceId) (effect : EffectId) : OncePerTurn → Snapshot
  | .unlimited => s.modifyField source (·.markActivated effect)
  | .card => s.markCard effect.card
  | .copy => s.markEffect source effect

/-- Puts a card into play: from off the field it is moved to the destination, on the field it is
turned face-up. -/
def enterPlay (destination : Option ZoneName) (s : Snapshot) (card : CardInstance) : Attempt :=
  match destination, card.isOnField with
  | some zone, false => s.moveToField card.id zone .faceUp
  | none, false => .ok { state := s }
  | _, true => if card.isFaceUp then .ok { state := s } else s.flipFaceUp card.id

/-- Puts the source into play and marks its effect as used. -/
def activate (t : ActivationTemplate) (name : String) (source : InstanceId) (effect : EffectId)
    (once : OncePerTurn) : Step where
  id := "activate"
  summary := s!"Activate {name}"
  notice := .silent
  run s _ :=
    match s.find? source with
    | none => .error (.missing source)
    | some card => do
      let out ← enterPlay t.destination s card
      return { out with state := mark out.state source effect once }

/-- Reports the activation. -/
def announce (t : ActivationTemplate) (name : String) (source : InstanceId) (effect : EffectId) :
    Step where
  id := "announce"
  summary := s!"{name} activated"
  notice := .silent
  run s _ := .ok { state := s, events := [t.event effect source] }

/-- The steps that put a card into play, tell the player and report the activation. -/
def steps (t : ActivationTemplate) (card : CardInstance) (effect : EffectId) (once : OncePerTurn) :
    List Step :=
  [t.activate card.name card.id effect once,
    .notify "notify" s!"{card.name} is activated",
    t.announce card.name card.id effect]

end ActivationTemplate

end SoloDuel
