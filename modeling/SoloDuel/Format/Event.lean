import SoloDuel.Event
import SoloDuel.Format.Snapshot
import SoloDuel.Refusal
import SoloDuel.Rule.Basic
/-!
# Stored events, refusals and actions

How events, refusals and the things that rules are asked about are stored.
-/

namespace SoloDuel

instance : Stored RefusalCode where
  encode c := .text <|
    match c with
    | .conditionsNotMet => "ConditionsNotMet"
    | .insufficientCounters => "InsufficientCounters"
    | .insufficientDeck => "InsufficientDeck"
    | .insufficientHand => "InsufficientHand"
    | .zoneFull => "ZoneFull"
    | .actionProhibited => "ActionProhibited"
    | .invalidSource => "InvalidSource"
    | .invalidSelection => "InvalidSelection"
    | .notCancelable => "NotCancelable"
  decode := Value.oneOf
    [("ConditionsNotMet", .conditionsNotMet), ("InsufficientCounters", .insufficientCounters),
      ("InsufficientDeck", .insufficientDeck), ("InsufficientHand", .insufficientHand),
      ("ZoneFull", .zoneFull), ("ActionProhibited", .actionProhibited),
      ("InvalidSource", .invalidSource), ("InvalidSelection", .invalidSelection),
      ("NotCancelable", .notCancelable)]

instance : Stored Refusal where
  encode r := .record [("code", encode r.code), ("message", encode r.message)]
  decode v := do
    return {
      code := ← v.field "code"
      message := ← v.field "message" }

instance : Stored EventKind where
  encode k := .text <|
    match k with
    | .spellActivated => "SpellActivated"
    | .trapActivated => "TrapActivated"
    | .effectActivated => "EffectActivated"
    | .cardsDrawn => "CardsDrawn"
    | .cardDestroyed => "CardDestroyed"
    | .lifeChanged => "LifeChanged"
  decode := Value.oneOf
    [("SpellActivated", .spellActivated), ("TrapActivated", .trapActivated),
      ("EffectActivated", .effectActivated), ("CardsDrawn", .cardsDrawn),
      ("CardDestroyed", .cardDestroyed), ("LifeChanged", .lifeChanged)]

/-- Writes a card and a copy of it. -/
def encodeCopy (card : CardId) (source : InstanceId) : Value :=
  .record [("card_id", encode card), ("instance_id", encode source)]

/-- Reads a card and a copy of it. -/
def decodeCopy (v : Value) : Option (CardId × InstanceId) := do
  return (← v.field "card_id", ← v.field "instance_id")

instance : Stored Event where
  encode
    | .spellActivated card source => .tagged "SpellActivated" (encodeCopy card source)
    | .trapActivated card source => .tagged "TrapActivated" (encodeCopy card source)
    | .effectActivated effect source =>
      .tagged "EffectActivated"
        (.record [("effect", encode effect), ("instance_id", encode source)])
    | .cardsDrawn count => .tagged "CardsDrawn" (.record [("count", encode count)])
    | .cardDestroyed card source => .tagged "CardDestroyed" (encodeCopy card source)
    | .lifeChanged side delta =>
      .tagged "LifeChanged" (.record [("side", encode side), ("delta", encode delta)])
  decode v :=
    match v.variant with
    | some ("SpellActivated", data) => (decodeCopy data).map fun (c, i) => .spellActivated c i
    | some ("TrapActivated", data) => (decodeCopy data).map fun (c, i) => .trapActivated c i
    | some ("EffectActivated", data) => do
      return .effectActivated (← data.field "effect") (← data.field "instance_id")
    | some ("CardsDrawn", data) => do
      let count : UInt64 ← data.field "count"
      return .cardsDrawn count.toNat
    | some ("CardDestroyed", data) => (decodeCopy data).map fun (c, i) => .cardDestroyed c i
    | some ("LifeChanged", data) => do
      return .lifeChanged (← data.field "side") (← data.field "delta")
    | _ => none

instance : Stored RuleCategory where
  encode c := .text <|
    match c with
    | .nameOverride => "NameOverride"
    | .statModifier => "StatModifier"
    | .summonCondition => "SummonCondition"
    | .summonPermission => "SummonPermission"
    | .actionPermission => "ActionPermission"
    | .victoryCondition => "VictoryCondition"
    | .actionReplacement => "ActionReplacement"
    | .selfDestruction => "SelfDestruction"
  decode := Value.oneOf
    [("NameOverride", .nameOverride), ("StatModifier", .statModifier),
      ("SummonCondition", .summonCondition), ("SummonPermission", .summonPermission),
      ("ActionPermission", .actionPermission), ("VictoryCondition", .victoryCondition),
      ("ActionReplacement", .actionReplacement), ("SelfDestruction", .selfDestruction)]

instance : Stored SummonKind where
  encode k := .text <|
    match k with
    | .normal => "Normal"
    | .set => "Set"
    | .special => "Special"
  decode := Value.oneOf [("Normal", .normal), ("Set", .set), ("Special", .special)]

instance : Stored ActionKind where
  encode
    | .activateSpell card source => .tagged "ActivateSpell" (encodeCopy card source)
    | .activateTrap card source => .tagged "ActivateTrap" (encodeCopy card source)
    | .activateEffect effect source =>
      .tagged "ActivateEffect" (.record [("effect", encode effect), ("instance_id", encode source)])
  decode v :=
    match v.variant with
    | some ("ActivateSpell", data) => (decodeCopy data).map fun (c, i) => .activateSpell c i
    | some ("ActivateTrap", data) => (decodeCopy data).map fun (c, i) => .activateTrap c i
    | some ("ActivateEffect", data) => do
      return .activateEffect (← data.field "effect") (← data.field "instance_id")
    | _ => none

instance : Stored RuleValue where
  encode
    | .name name => .tagged "Name" (encode name)
    | .stats stats => .tagged "Stats" (encode stats)
  decode v :=
    match v.variant with
    | some ("Name", data) => (decode data).map .name
    | some ("Stats", data) => (decode data).map .stats
    | _ => none

end SoloDuel
