import SoloDuel.Activation.CardEffect
import SoloDuel.Format.Event
import SoloDuel.Format.Selection
/-!
# Views

What is shown of a duel. A view is a value for reading, shorter than what is stored; nothing is read
back from it. Marks are shown in ascending order, since the order in which they were made tells
nothing.
-/

namespace SoloDuel

/-- The place of a once-per-turn mark in an ascending listing: by copy, card and category. -/
def markRank (mark : InstanceId × EffectId) : Nat :=
  (mark.1.number.toNat * UInt32.size + mark.2.card.number.toNat) * 2 + mark.2.category.rank

namespace Board

/-- The cards of each zone. A card with field state is shown with it, any other by its number. -/
def view (b : Board) : Value :=
  let card (c : CardInstance) : Value :=
    match c.field with
    | none => encode c.id
    | some state =>
      .record [("id", encode c.id), ("card", encode c.cardId), ("state", encode state)]
  let zone (name : String) (z : ZoneName) : String × Value := (name, .list ((b.zone z).map card))
  .record
    [zone "Deck" .deck, zone "Hand" .hand, zone "MonsterZone" .monsterZone,
      zone "SpellTrapZone" .spellTrapZone, zone "FieldZone" .fieldZone,
      zone "Graveyard" .graveyard, zone "Banished" .banished]

/-- Counts, room and top cards of the zones, and what is on the board and on the field. -/
def summary (b : Board) (limits : ZoneCapacity) : Value :=
  .record
    [("total", encode b.total), ("lens", encode (ZoneName.all.map b.count)),
      ("space", encode (ZoneName.all.map fun z => b.hasSpace z limits)),
      ("tops", encode (ZoneName.all.map fun z => (b.top? z).map (·.id))),
      ("ids", encode b.ids), ("on_field", encode (b.onField.map (·.id)))]

end Board

namespace Snapshot

/-- The snapshot with its marks in ascending order. -/
def sorted (s : Snapshot) : Snapshot :=
  { s with
    usedCards := sortAscending Identifier.rank s.usedCards
    usedEffects := sortAscending markRank s.usedEffects }

/-- What is shown of a snapshot. -/
def view (s : Snapshot) : Value :=
  .record
    [("zones", s.board.view), ("phase", encode s.phase), ("turn", encode s.turn),
      ("life", .list [encode s.life.player, encode s.life.opponent]),
      ("result", encode s.result), ("summons", encode s.normalSummonsLeft),
      ("cards_used", encode s.sorted.usedCards),
      ("effects_used", .list <| s.sorted.usedEffects.map fun (source, effect) =>
        .list [encode source, encode effect.card, encode effect.category]),
      ("rng_pos", .text (toString s.rng.wordPos))]

end Snapshot

namespace DuelResult

/-- What is told of a result besides the result itself. -/
def details (r : DuelResult) : List (String × Value) :=
  [("terminal", encode r.isTerminal), ("winner", encode r.winner?), ("reason", encode r.reason?)]

end DuelResult

/-- What is shown of an outcome. -/
def Outcome.view (out : Outcome) : Value :=
  .record [("message", encode out.message), ("events", encode out.events)]

/-- What is shown of a step. -/
def Step.view (step : Step) : Value :=
  .record
    [("id", encode step.id), ("summary", encode step.summary),
      ("description", encode step.description), ("notification", encode step.notice),
      ("selection", encode step.selection), ("interactive", encode step.isInteractive)]

/-- What is shown of an effect and its steps for a source. -/
def CardEffect.view (e : CardEffect) (s : Snapshot) (source : InstanceId) : Value :=
  .record
    [("card_id", encode e.card), ("category", encode e.category),
      ("spell_speed", encode e.speed.value), ("effect_id", encode e.id.text),
      ("activation", .list ((e.activationSteps s source).map Step.view)),
      ("resolution", .list ((e.resolutionSteps s source).map Step.view))]

/-- What is shown of where a sequencer is. -/
def SequencerStatus.view : SequencerStatus → Value
  | idle => .text "Idle"
  | running index => .tagged "Running" (encode index)
  | awaiting index _ => .text s!"AwaitingSelection({index})"
  | complete => .text "Complete"
  | aborted reason => .tagged "Aborted" (encode reason)

end SoloDuel
