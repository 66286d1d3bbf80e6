import SoloDuel.Format.Selection
import SoloDuel.Format.Snapshot
import SoloDuel.Play.Command
import SoloDuel.Play.Transcript
/-!
# Written plays

How references to cards, operations, commands and calls are written. Fields are read in a fixed
order on the snapshot at hand; the first one that cannot be read, or that names a card which is not
there, is the fault.

* `readCard`, `readCards` — fields that name cards.
* `Operation.ofRecord`, `Command.ofRecord` — plays, by name.
* `Call.ofValue` — a call to a sequencer.
-/

namespace SoloDuel

instance : Stored CardRef where
  encode
    | .copy id => encode id
    | .place zone index => .list [encode zone, .int index]
    | .species card zone => .record [("card", encode card), ("zone", encode zone)]
  decode
    | .int n => (decode (.int n)).map .copy
    | .list [zone, index] => do return .place (← decode zone) (← decode index)
    | v => do return .species (← v.field "card") (← v.option "zone")

namespace Value

variable {α : Type}

/-- Reads a value. -/
def read [Stored α] (v : Value) : Except ReadFault α :=
  match decode v with
  | some a => .ok a
  | none => .error .malformed

/-- Reads a field that has to be there. -/
def need [Stored α] (v : Value) (name : String) : Except ReadFault α :=
  match v.field name with
  | some a => .ok a
  | none => .error .malformed

/-- Reads a field that may be missing or null. -/
def optional [Stored α] (v : Value) (name : String) : Except ReadFault (Option α) :=
  match v.option name with
  | some a => .ok a
  | none => .error .malformed

/-- Reads a field that holds a list of values. -/
def items (v : Value) (name : String) : Except ReadFault (List Value) :=
  match v.find? name with
  | some (list items) => .ok items
  | _ => .error .malformed

/-- A field that is there and not null. -/
def present? (v : Value) (name : String) : Option Value :=
  match v.find? name with
  | some null => none
  | found => found

end Value

/-! ## Cards and placements -/

/-- The copy that a value names. -/
def resolveCard (s : Snapshot) (v : Value) : Except ReadFault InstanceId :=
  Call.resolveOne s (decode v)

/-- The copy that a field names. -/
def readCard (s : Snapshot) (v : Value) (name : String) : Except ReadFault InstanceId :=
  match v.find? name with
  | some x => resolveCard s x
  | none => .error .malformed

/-- The copies that a field names. -/
def readCards (s : Snapshot) (v : Value) (name : String) : Except ReadFault (List InstanceId) := do
  let refs ← v.items name
  refs.mapM (resolveCard s)

/-- The card that a field names, which has to be there. -/
def readInstance (s : Snapshot) (v : Value) (name : String) : Except ReadFault CardInstance := do
  let id ← readCard s v name
  match s.find? id with
  | some card => return card
  | none => throw .noSuchCard

/-- Reads a placement, which may be written by name. -/
def readPlacement (v : Value) (name : String) : Except ReadFault Placement :=
  match v.find? name with
  | some (.text "FACE_UP") => .ok .faceUp
  | some (.text "SET") => .ok .set
  | some (.text "ATTACK") => .ok .attack
  | some (.text "SET_MONSTER") => .ok .setMonster
  | some x => x.read
  | none => .error .malformed

/-! ## Plays -/

/-- The operation with a name, if there is one. -/
def Operation.ofRecord (s : Snapshot) (name : String) (v : Value) :
    Option (Except ReadFault Operation) :=
  let card := readCard s v "card"
  match name with
  | "move_card" => some do
    return .moveCard (← card) (← v.need "to") (← readPlacement v "placement")
  | "draw" => some do return .draw (← v.need "count")
  | "draw_until" => some do return .drawUntil (← v.need "count")
  | "discard" => some do return .discard (← readCards s v "cards")
  | "search" => some do return .search (← card)
  | "add_to_hand" => some do return .addToHand (← card) (← v.need "from")
  | "send_to_graveyard" => some do return .sendToGraveyard (← card)
  | "banish" => some do return .banish (← card)
  | "move_to_field" => some do
    return .moveToField (← card) (← v.need "to") (← readPlacement v "placement")
  | "set_card" => some do
    return .setCard (← card) (← v.need "to") (← readPlacement v "placement")
  | "flip_face_up" => some do return .flipFaceUp (← card)
  | "shuffle_deck" => some (.ok .shuffleDeck)
  | "add_counters" => some do
    return .addCounters (← card) (← v.need "kind") (← v.need "amount") (← v.optional "limit")
  | "remove_counters" => some do
    return .removeCounters (← card) (← v.need "kind") (← v.need "amount")
  | "set_counters" => some do
    return .setCounters (← card) (← v.need "kind") (← v.need "count") (← v.optional "limit")
  | "gain_life" => some do return .gainLife (← v.need "side") (← v.need "amount")
  | "lose_life" => some do return .loseLife (← v.need "side") (← v.need "amount")
  | _ => none

/-- The command with a name, if there is one. -/
def Command.ofRecord (s : Snapshot) (name : String) (v : Value) :
    Option (Except ReadFault Command) :=
  let card := readCard s v "card"
  match name with
  | "advance_phase" => some (.ok .advancePhase)
  | "advance_to" => some do return .advanceTo (← v.need "phase")
  | "draw_phase_draw" => some (.ok .drawForTurn)
  | "settle" => some (.ok .settle)
  | "evaluate_victory" => some do return .evaluateVictory (← v.need "draw_due")
  | "normal_summon" => some do return .normalSummon (← card)
  | "set_monster" => some do return .setMonster (← card)
  | "special_summon" => some do return .specialSummon (← card)
  | "set_spell_trap" => some do return .setSpellTrap (← card)
  | "destroy" => some do return .destroy (← card)
  | "apply_self_destruction" => some (.ok .applySelfDestruction)
  | _ => none

/-- A call to a sequencer. -/
def Call.ofValue : Value → Call
  | .text "start" => .start
  | .text "cancel" => .cancel
  | .text "min" => .fewest
  | .text "min_last" => .fewestLast
  | .list refs => .choose (refs.map decode)
  | _ => .unknown

end SoloDuel
