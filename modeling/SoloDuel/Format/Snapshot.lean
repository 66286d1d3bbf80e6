import SoloDuel.Format.Card
import SoloDuel.Snapshot.Basic
/-!
# Stored snapshots

How a snapshot and everything in it is stored. The once-per-turn marks are stored as lists and read
back as sets: a mark that is written twice counts once.
-/

namespace SoloDuel

instance : Stored Phase where
  encode p := .text <|
    match p with
    | .draw => "Draw"
    | .standby => "Standby"
    | .main => "Main"
    | .ending => "End"
  decode := Value.oneOf
    [("Draw", .draw), ("Standby", .standby), ("Main", .main), ("End", .ending)]

instance : Stored Side where
  encode s := .text <|
    match s with
    | .player => "Player"
    | .opponent => "Opponent"
  decode := Value.oneOf [("Player", .player), ("Opponent", .opponent)]

instance {α : Type} [Stored α] : Stored (BySide α) where
  encode m := .record [("data", encode (m.player, m.opponent))]
  decode v := do
    let (player, opponent) ← v.field "data"
    return { player := player, opponent := opponent }

instance : Stored DuelConfig where
  encode c := .record
    [("starting_life", encode c.startingLife), ("opening_hand", encode c.openingHand),
      ("capacity", encode c.capacity), ("normal_summons_per_turn", encode c.normalSummonsPerTurn),
      ("seed", encode c.seed), ("shuffle_on_start", encode c.shuffleOnStart)]
  decode v := do
    return {
      startingLife := ← v.field "starting_life"
      openingHand := ← v.field "opening_hand"
      capacity := ← v.field "capacity"
      normalSummonsPerTurn := ← v.field "normal_summons_per_turn"
      seed := ← v.field "seed"
      shuffleOnStart := ← v.field "shuffle_on_start" }

instance : Stored Board where
  encode b := .record
    [("deck", encode b.deck), ("hand", encode b.hand), ("monster_zone", encode b.monsterZone),
      ("spell_trap_zone", encode b.spellTrapZone), ("field_zone", encode b.fieldZone),
      ("graveyard", encode b.graveyard), ("banished", encode b.banished)]
  decode v := do
    return {
      deck := ← v.field "deck"
      hand := ← v.field "hand"
      monsterZone := ← v.field "monster_zone"
      spellTrapZone := ← v.field "spell_trap_zone"
      fieldZone := ← v.field "field_zone"
      graveyard := ← v.field "graveyard"
      banished := ← v.field "banished" }

instance : Stored SpellSpeed where
  encode s := .text <|
    match s with
    | .one => "One"
    | .two => "Two"
    | .three => "Three"
  decode := Value.oneOf [("One", .one), ("Two", .two), ("Three", .three)]

instance : Stored ChainBlock where
  encode b := .record
    [("card_id", encode b.card), ("instance_id", encode b.source),
      ("category", encode b.category), ("spell_speed", encode b.speed)]
  decode v := do
    return {
      card := ← v.field "card_id"
      source := ← v.field "instance_id"
      category := ← v.field "category"
      speed := ← v.field "spell_speed" }

instance : Stored VictoryReason where
  encode
    | .lifeDepleted => .text "LifePointsDepleted"
    | .deckOut => .text "DeckOut"
    | .special rule name =>
      .tagged "SpecialVictory" (.record [("rule", encode rule), ("name", encode name)])
  decode v :=
    match v.variant with
    | some ("LifePointsDepleted", .null) => some .lifeDepleted
    | some ("DeckOut", .null) => some .deckOut
    | some ("SpecialVictory", data) => do
      return .special (← data.field "rule") (← data.field "name")
    | _ => none

instance : Stored DuelResult where
  encode
    | .ongoing => .text "Ongoing"
    | .decided winner reason =>
      .tagged "Decided" (.record [("winner", encode winner), ("reason", encode reason)])
  decode v :=
    match v.variant with
    | some ("Ongoing", .null) => some .ongoing
    | some ("Decided", data) => do
      return .decided (← data.field "winner") (← data.field "reason")
    | _ => none

instance : Stored RngState where
  encode r := .record [("seed", encode r.seed), ("word_pos", encode r.wordPos)]
  decode v := do
    return {
      seed := ← v.field "seed"
      wordPos := ← v.field "word_pos" }

/-- Reads a list as the set of its elements. -/
def distinctElements {α : Type} [DecidableEq α] (xs : List α) : List α := xs.foldr List.insert []

instance : Stored Snapshot where
  encode s := .record
    [("config", encode s.config), ("zones", encode s.board), ("life_points", encode s.life),
      ("phase", encode s.phase), ("turn", encode s.turn), ("chain", encode s.chain),
      ("result", encode s.result), ("normal_summons_remaining", encode s.normalSummonsLeft),
      ("card_once_per_turn", encode s.usedCards), ("effect_once_per_turn", encode s.usedEffects),
      ("rng", encode s.rng)]
  decode v := do
    return {
      config := ← v.field "config"
      board := ← v.field "zones"
      life := ← v.field "life_points"
      phase := ← v.field "phase"
      turn := ← v.field "turn"
      chain := ← v.field "chain"
      result := ← v.field "result"
      normalSummonsLeft := ← v.field "normal_summons_remaining"
      usedCards := distinctElements (← v.field "card_once_per_turn")
      usedEffects := distinctElements (← v.field "effect_once_per_turn")
      rng := ← v.field "rng" }

end SoloDuel
