import SoloDuel.Format.Card
import SoloDuel.Sequencer
/-!
# Stored selections

How filters, selections, requests and the place of a sequencer are stored.
-/

namespace SoloDuel

namespace CardFilter

/-- The fields of a filter on monsters. -/
def encodeMonster (race : Option Race) (maxLevel : Option UInt8) : Value :=
  .record [("race", encode race), ("max_level", encode maxLevel)]

/-- Reads the fields of a filter on monsters. -/
def decodeMonster (v : Value) : Option CardFilter :=
  if v.isRecord then do
    return .monster (← v.option "race") (← v.option "max_level")
  else none

mutual

/-- Writes a filter. -/
def write : CardFilter → Value
  | any => .text "Any"
  | kind k => .tagged "Kind" (encode k)
  | spell type => .tagged "Spell" (encode type)
  | monster race maxLevel => .tagged "Monster" (encodeMonster race maxLevel)
  | except id => .tagged "Except" (encode id)
  | all filters => .tagged "All" (.list (writeEach filters))

/-- Writes the filters of a list. -/
def writeEach : List CardFilter → List Value
  | [] => []
  | f :: rest => f.write :: writeEach rest

end

mutual

/-- Reads a filter. -/
def read : Value → Option CardFilter
  | .text "Any" => some any
  | .record [("Any", .null)] => some any
  | .record [("Kind", data)] => (decode data).map kind
  | .record [("Spell", data)] => (decode data).map spell
  | .record [("Monster", data)] => decodeMonster data
  | .record [("Except", data)] => (decode data).map except
  | .record [("All", .list items)] => (readEach items).map all
  | _ => none

/-- Reads the filters of a list. -/
def readEach : List Value → Option (List CardFilter)
  | [] => some []
  | v :: rest =>
    match read v, readEach rest with
    | some f, some filters => some (f :: filters)
    | _, _ => none

end

end CardFilter

instance : Stored CardFilter where
  encode := CardFilter.write
  decode := CardFilter.read

instance : Stored SelectionSource where
  encode
    | .fixed ids => .tagged "Static" (encode ids)
    | .zone name filter =>
      .tagged "Zone" (.record [("zone", encode name), ("filter", encode filter)])
  decode v :=
    match v.variant with
    | some ("Static", data) => (decode data).map .fixed
    | some ("Zone", data) => do
      return .zone (← data.field "zone") (← data.field "filter")
    | _ => none

instance : Stored CardSelection where
  encode s := .record
    [("source", encode s.source), ("min", encode s.min), ("max", encode s.max),
      ("cancelable", encode s.cancelable)]
  decode v := do
    return {
      source := ← v.field "source"
      min := ← v.field "min"
      max := ← v.field "max"
      cancelable := ← v.field "cancelable" }

instance : Stored SelectionRequest where
  encode r := .record
    [("step_id", encode r.stepId), ("summary", encode r.summary),
      ("candidates", encode r.candidates), ("min", encode r.min), ("max", encode r.max),
      ("cancelable", encode r.cancelable)]
  decode v := do
    return {
      stepId := ← v.field "step_id"
      summary := ← v.field "summary"
      candidates := ← v.field "candidates"
      min := ← v.field "min"
      max := ← v.field "max"
      cancelable := ← v.field "cancelable" }

instance : Stored Notice where
  encode n := .text <|
    match n with
    | .silent => "Silent"
    | .informational => "Informational"
    | .interactive => "Interactive"
  decode := Value.oneOf
    [("Silent", .silent), ("Informational", .informational), ("Interactive", .interactive)]

instance : Stored SequencerStatus where
  encode
    | .idle => .text "Idle"
    | .running index => .tagged "Running" (encode index)
    | .awaiting index request =>
      .tagged "AwaitingSelection" (.record [("index", encode index), ("request", encode request)])
    | .complete => .text "Complete"
    | .aborted reason => .tagged "Aborted" (encode reason)
  decode v :=
    match v.variant with
    | some ("Idle", .null) => some .idle
    | some ("Running", data) => (decode data).map .running
    | some ("AwaitingSelection", data) => do
      return .awaiting (← data.field "index") (← data.field "request")
    | some ("Complete", .null) => some .complete
    | some ("Aborted", data) => (decode data).map .aborted
    | _ => none

end SoloDuel
