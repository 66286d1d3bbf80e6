import SoloDuel.Card.Instance
import SoloDuel.Format.Value
/-!
# Stored cards

How identifiers, card species and card copies are stored. Identifiers are stored as their numbers,
alternatives by name, everything else as records.
-/

namespace SoloDuel

/-! ## Identifiers -/

instance : Stored CardId where
  encode c := encode c.number
  decode v := (decode v).map CardId.mk

instance : Stored InstanceId where
  encode i := encode i.number
  decode v := (decode v).map InstanceId.mk

instance : Stored RuleId where
  encode r := encode r.number
  decode v := (decode v).map RuleId.mk

instance : Stored TriggerId where
  encode t := encode t.number
  decode v := (decode v).map TriggerId.mk

/-! ## Zones -/

instance : Stored ZoneName where
  encode z := .text <|
    match z with
    | .deck => "Deck"
    | .hand => "Hand"
    | .monsterZone => "MonsterZone"
    | .spellTrapZone => "SpellTrapZone"
    | .fieldZone => "FieldZone"
    | .graveyard => "Graveyard"
    | .banished => "Banished"
  decode := Value.oneOf
    [("Deck", .deck), ("Hand", .hand), ("MonsterZone", .monsterZone),
      ("SpellTrapZone", .spellTrapZone), ("FieldZone", .fieldZone), ("Graveyard", .graveyard),
      ("Banished", .banished)]

instance : Stored ZoneEnd where
  encode e := .text <|
    match e with
    | .top => "Top"
    | .bottom => "Bottom"
  decode := Value.oneOf [("Top", .top), ("Bottom", .bottom)]

instance : Stored ZoneCapacity where
  encode c := .record
    [("monster", encode c.monster), ("spell_trap", encode c.spellTrap), ("field", encode c.field)]
  decode v := do
    return {
      monster := ← v.field "monster"
      spellTrap := ← v.field "spell_trap"
      field := ← v.field "field" }

/-! ## Species -/

instance : Stored CardKind where
  encode k := .text <|
    match k with
    | .monster => "Monster"
    | .spell => "Spell"
    | .trap => "Trap"
  decode := Value.oneOf [("Monster", .monster), ("Spell", .spell), ("Trap", .trap)]

instance : Stored FrameType where
  encode f := .text <|
    match f with
    | .normal => "Normal"
    | .effect => "Effect"
    | .fusion => "Fusion"
    | .ritual => "Ritual"
    | .spell => "Spell"
    | .trap => "Trap"
  decode := Value.oneOf
    [("Normal", .normal), ("Effect", .effect), ("Fusion", .fusion), ("Ritual", .ritual),
      ("Spell", .spell), ("Trap", .trap)]

instance : Stored SpellType where
  encode t := .text <|
    match t with
    | .normal => "Normal"
    | .quickPlay => "QuickPlay"
    | .continuous => "Continuous"
    | .field => "Field"
    | .equip => "Equip"
    | .ritual => "Ritual"
  decode := Value.oneOf
    [("Normal", .normal), ("QuickPlay", .quickPlay), ("Continuous", .continuous),
      ("Field", .field), ("Equip", .equip), ("Ritual", .ritual)]

instance : Stored TrapType where
  encode t := .text <|
    match t with
    | .normal => "Normal"
    | .continuous => "Continuous"
    | .counter => "Counter"
  decode := Value.oneOf
    [("Normal", .normal), ("Continuous", .continuous), ("Counter", .counter)]

instance : Stored Race where
  encode r := .text <|
    match r with
    | .dragon => "Dragon"
    | .fairy => "Fairy"
    | .fiend => "Fiend"
    | .machine => "Machine"
    | .spellcaster => "Spellcaster"
    | .warrior => "Warrior"
    | .wingedBeast => "WingedBeast"
    | .aqua => "Aqua"
  decode := Value.oneOf
    [("Dragon", .dragon), ("Fairy", .fairy), ("Fiend", .fiend), ("Machine", .machine),
      ("Spellcaster", .spellcaster), ("Warrior", .warrior), ("WingedBeast", .wingedBeast),
      ("Aqua", .aqua)]

instance : Stored MonsterStats where
  encode s := .record
    [("level", encode s.level), ("attack", encode s.attack), ("defense", encode s.defense),
      ("race", encode s.race)]
  decode v := do
    return {
      level := ← v.field "level"
      attack := ← v.field "attack"
      defense := ← v.field "defense"
      race := ← v.field "race" }

instance : Stored CardData where
  encode c := .record
    [("id", encode c.id), ("name", encode c.name), ("kind", encode c.kind),
      ("frame", encode c.frame), ("spell_type", encode c.spellType),
      ("trap_type", encode c.trapType), ("stats", encode c.stats)]
  decode v := do
    return {
      id := ← v.field "id"
      name := ← v.field "name"
      kind := ← v.field "kind"
      frame := ← v.field "frame"
      spellType := ← v.option "spell_type"
      trapType := ← v.option "trap_type"
      stats := ← v.option "stats" }

/-! ## Effects -/

instance : Stored EffectCategory where
  encode c := .text <|
    match c with
    | .activation => "Activation"
    | .ignition => "Ignition"
  decode := Value.oneOf [("Activation", .activation), ("Ignition", .ignition)]

instance : Stored EffectId where
  encode e := .record [("card", encode e.card), ("category", encode e.category)]
  decode v := do
    return {
      card := ← v.field "card"
      category := ← v.field "category" }

/-! ## Copies -/

instance : Stored Face where
  encode f := .text <|
    match f with
    | .up => "FaceUp"
    | .down => "FaceDown"
  decode := Value.oneOf [("FaceUp", .up), ("FaceDown", .down)]

instance : Stored BattlePosition where
  encode p := .text <|
    match p with
    | .attack => "Attack"
    | .defense => "Defense"
  decode := Value.oneOf [("Attack", .attack), ("Defense", .defense)]

instance : Stored Placement where
  encode p := .record [("face", encode p.face), ("position", encode p.position)]
  decode v := do
    return {
      face := ← v.field "face"
      position := ← v.option "position" }

instance : Stored CounterKind where
  encode
    | .spell => .text "Spell"
    | .generic number => .tagged "Generic" (encode number)
  decode v :=
    match v.variant with
    | some ("Spell", .null) => some .spell
    | some ("Generic", data) => (decode data).map .generic
    | _ => none

instance : Stored Counter where
  encode c := .record [("kind", encode c.kind), ("count", encode c.count)]
  decode v := do
    return {
      kind := ← v.field "kind"
      count := ← v.field "count" }

instance : Stored FieldState where
  encode f := .record
    [("face", encode f.face), ("position", encode f.position),
      ("placed_this_turn", encode f.placedThisTurn), ("counters", encode f.counters),
      ("activated", encode f.activated)]
  decode v := do
    return {
      face := ← v.field "face"
      position := ← v.option "position"
      placedThisTurn := ← v.field "placed_this_turn"
      counters := ← v.field "counters"
      activated := ← v.field "activated" }

instance : Stored CardInstance where
  encode c := .record
    [("instance_id", encode c.id), ("data", encode c.data), ("location", encode c.location),
      ("field", encode c.field)]
  decode v := do
    return {
      id := ← v.field "instance_id"
      data := ← v.field "data"
      location := ← v.field "location"
      field := ← v.option "field" }

end SoloDuel
