import SoloDuel.Format.Selection
import SoloDuel.Format.Snapshot
import SoloDuel.Script.Basic
/-!
# Stored scripts

How effect scripts are stored. A script that says nothing of its restriction is unrestricted, and
one that says nothing of conditions has none.
-/

namespace SoloDuel

instance : Stored ActivationTemplate where
  encode t := .text <|
    match t with
    | .normalSpell => "NormalSpell"
    | .quickPlaySpell => "QuickPlaySpell"
    | .continuousSpell => "ContinuousSpell"
    | .fieldSpell => "FieldSpell"
    | .normalTrap => "NormalTrap"
    | .ignition => "Ignition"
  decode := Value.oneOf
    [("NormalSpell", .normalSpell), ("QuickPlaySpell", .quickPlaySpell),
      ("ContinuousSpell", .continuousSpell), ("FieldSpell", .fieldSpell),
      ("NormalTrap", .normalTrap), ("Ignition", .ignition)]

instance : Stored OncePerTurn where
  encode o := .text <|
    match o with
    | .unlimited => "Unlimited"
    | .card => "Card"
    | .copy => "Instance"
  decode := Value.oneOf [("Unlimited", .unlimited), ("Card", .card), ("Instance", .copy)]

instance : Stored ConditionKind where
  encode k := .text <|
    match k with
    | .handAtLeast => "HandAtLeast"
    | .deckAtLeast => "DeckAtLeast"
    | .countersAtLeast => "CountersAtLeast"
    | .onField => "OnField"
    | .inPhase => "InPhase"
    | .zoneHas => "ZoneHas"
  decode := Value.oneOf
    [("HandAtLeast", .handAtLeast), ("DeckAtLeast", .deckAtLeast),
      ("CountersAtLeast", .countersAtLeast), ("OnField", .onField), ("InPhase", .inPhase),
      ("ZoneHas", .zoneHas)]

instance : Stored Condition where
  encode
    | .handAtLeast count excludingSource => .tagged "HandAtLeast" (.record
        [("count", encode count), ("excluding_source", encode excludingSource)])
    | .deckAtLeast count => .tagged "DeckAtLeast" (encode count)
    | .countersAtLeast kind count => .tagged "CountersAtLeast" (.record
        [("kind", encode kind), ("count", encode count)])
    | .onField => .text "OnField"
    | .inPhase phase => .tagged "InPhase" (encode phase)
    | .zoneHas zone filter => .tagged "ZoneHas" (.record
        [("zone", encode zone), ("filter", encode filter)])
  decode v :=
    match v.variant with
    | some ("HandAtLeast", data) => do
      return .handAtLeast (← data.field "count") (← data.field "excluding_source")
    | some ("DeckAtLeast", data) => (decode data).map .deckAtLeast
    | some ("CountersAtLeast", data) => do
      return .countersAtLeast (← data.field "kind") (← data.field "count")
    | some ("OnField", .null) => some .onField
    | some ("InPhase", data) => (decode data).map .inPhase
    | some ("ZoneHas", data) => do
      return .zoneHas (← data.field "zone") (← data.field "filter")
    | _ => none

instance : Stored InstructionKind where
  encode k := .text <|
    match k with
    | .draw => "Draw"
    | .drawUntil => "DrawUntil"
    | .discard => "Discard"
    | .gainLife => "GainLife"
    | .loseLife => "LoseLife"
    | .addCounters => "AddCounters"
    | .removeCounters => "RemoveCounters"
    | .search => "Search"
    | .addToHand => "AddToHand"
    | .sendSourceToGraveyard => "SendSourceToGraveyard"
  decode := Value.oneOf
    [("Draw", .draw), ("DrawUntil", .drawUntil), ("Discard", .discard), ("GainLife", .gainLife),
      ("LoseLife", .loseLife), ("AddCounters", .addCounters), ("RemoveCounters", .removeCounters),
      ("Search", .search), ("AddToHand", .addToHand),
      ("SendSourceToGraveyard", .sendSourceToGraveyard)]

instance : Stored Instruction where
  encode
    | .draw count => .tagged "Draw" (encode count)
    | .drawUntil handSize => .tagged "DrawUntil" (encode handSize)
    | .discard count => .tagged "Discard" (encode count)
    | .gainLife side amount => .tagged "GainLife" (.record
        [("side", encode side), ("amount", encode amount)])
    | .loseLife side amount => .tagged "LoseLife" (.record
        [("side", encode side), ("amount", encode amount)])
    | .addCounters kind amount limit => .tagged "AddCounters" (.record
        [("kind", encode kind), ("amount", encode amount), ("limit", encode limit)])
    | .removeCounters kind amount => .tagged "RemoveCounters" (.record
        [("kind", encode kind), ("amount", encode amount)])
    | .search filter => .tagged "Search" (encode filter)
    | .addToHand origin filter => .tagged "AddToHand" (.record
        [("from", encode origin), ("filter", encode filter)])
    | .sendSourceToGraveyard => .text "SendSourceToGraveyard"
  decode v :=
    match v.variant with
    | some ("Draw", data) => (decode data).map .draw
    | some ("DrawUntil", data) => (decode data).map .drawUntil
    | some ("Discard", data) => (decode data).map .discard
    | some ("GainLife", data) => do
      return .gainLife (← data.field "side") (← data.field "amount")
    | some ("LoseLife", data) => do
      return .loseLife (← data.field "side") (← data.field "amount")
    | some ("AddCounters", data) => do
      return .addCounters (← data.field "kind") (← data.field "amount") (← data.option "limit")
    | some ("RemoveCounters", data) => do
      return .removeCounters (← data.field "kind") (← data.field "amount")
    | some ("Search", data) => (decode data).map .search
    | some ("AddToHand", data) => do
      return .addToHand (← data.field "from") (← data.field "filter")
    | some ("SendSourceToGraveyard", .null) => some .sendSourceToGraveyard
    | _ => none

instance : Stored Script where
  encode s := .record
    [("card_id", encode s.card), ("template", encode s.template),
      ("once_per_turn", encode s.once), ("conditions", encode s.conditions),
      ("steps", encode s.instructions)]
  decode v := do
    return {
      card := ← v.field "card_id"
      template := ← v.field "template"
      once := ← v.fieldD "once_per_turn" .unlimited
      conditions := ← v.fieldD "conditions" []
      instructions := ← v.field "steps" }

end SoloDuel
