import SoloDuel.Step.Basic
/-!
# Continuous rules

A continuous rule changes what is read off a card or decides whether something is allowed. Its
category says which of its parts is asked:

* `nameOverride` and `statModifier` change a value, by `apply`;
* `summonCondition`, `summonPermission` and `actionPermission` allow or forbid, by `permits`;
* `victoryCondition` and `selfDestruction` hold or not, by `permits`;
* `actionReplacement` puts something in the place of a destruction, by `replace`.

A rule is asked only where `canApply` holds.
-/

namespace SoloDuel

/-- What a rule is for. -/
inductive RuleCategory where
  | nameOverride
  | statModifier
  | summonCondition
  | summonPermission
  | actionPermission
  | victoryCondition
  | actionReplacement
  | selfDestruction
  deriving DecidableEq

namespace RuleCategory

/-- Every category. -/
def all : List RuleCategory :=
  [nameOverride, statModifier, summonCondition, summonPermission, actionPermission,
    victoryCondition, actionReplacement, selfDestruction]

end RuleCategory

/-- How a monster is put on the field. -/
inductive SummonKind where
  | normal
  | set
  | special
  deriving DecidableEq

/-- An activation that the rules may forbid. -/
inductive ActionKind where
  | activateSpell (card : CardId) (source : InstanceId)
  | activateTrap (card : CardId) (source : InstanceId)
  | activateEffect (effect : EffectId) (source : InstanceId)
  deriving DecidableEq

/-- What a rule is asked about. -/
inductive RuleContext where
  /-- A card whose name, stats or survival is read. -/
  | card (card : CardInstance)
  /-- A monster about to be summoned. -/
  | summon (card : CardInstance) (kind : SummonKind)
  /-- An activation about to be made. -/
  | action (action : ActionKind)
  /-- Whether a side has won. -/
  | victory (side : Side)
  /-- A card about to be destroyed. -/
  | destroy (card : CardInstance)

namespace RuleContext

/-- The card that is asked about, if it is one. -/
def card? : RuleContext → Option CardInstance
  | card c => some c
  | summon c _ => some c
  | destroy c => some c
  | action _ | victory _ => none

end RuleContext

/-- A value that rules change. -/
inductive RuleValue where
  | name (name : String)
  | stats (stats : MonsterStats)
  deriving DecidableEq

/-- A continuous rule. -/
structure Rule where
  id : RuleId
  name : String
  category : RuleCategory
  /-- Whether the rule is a card's effect; a rule of the game is not. -/
  isEffect : Bool := true
  /-- Whether the rule has a say. -/
  canApply : Snapshot → RuleContext → Bool
  /-- Changes a value that is read. -/
  apply : Snapshot → RuleContext → RuleValue → RuleValue := fun _ _ value => value
  /-- Whether the rule allows something, or its condition holds. -/
  permits : Snapshot → RuleContext → Bool := fun _ _ => true
  /-- What happens in the place of a destruction, unless the rule declines. -/
  replace : Snapshot → RuleContext → Option Attempt := fun _ _ => none

end SoloDuel
