import SoloDuel.Fault
import SoloDuel.Trigger
/-!
# The sequencer

A sequencer plays out a list of steps. Steps run one after another; a step that asks the player for
cards makes the sequencer wait. The steps with which triggers answer the events of a step are put in
directly behind it. A step that is refused ends the run with the snapshot from before it; a
cancelled run goes back to the snapshot it started from.

* `Sequencer.start`, `Sequencer.provide`, `Sequencer.cancel` — the calls of a run.
* `Sequencer.visit` — what a run does at one step; `Sequencer.run` goes on from step to step.

Triggers may answer without end, so a run takes the number of steps it may visit and gives nothing
when that number is too small.
-/

namespace SoloDuel

/-- Where a sequencer is. -/
inductive SequencerStatus where
  /-- Not started. -/
  | idle
  /-- At a step. -/
  | running (index : Nat)
  /-- Waiting for an answer to the step at a place. -/
  | awaiting (index : Nat) (request : SelectionRequest)
  /-- Every step has run. -/
  | complete
  /-- The run was given up. -/
  | aborted (reason : String)
  deriving DecidableEq

/-- What a call to a sequencer produces. -/
inductive SequencerAnswer where
  /-- Every step has run. -/
  | completed (state : Snapshot)
  /-- A step asks for cards. -/
  | awaiting (request : SelectionRequest)
  /-- A step was refused. The snapshot is the one from before it. -/
  | failed (state : Snapshot) (stepId : String) (refusal : Refusal)
  /-- The run was cancelled. The snapshot is the one it started from. -/
  | cancelled (state : Snapshot)
  /-- The choice of cards or the cancelling was refused; the step still asks. -/
  | rejected (refusal : Refusal) (request : SelectionRequest)

/-- A list of steps being played out. -/
structure Sequencer where
  /-- All steps, those put in by triggers included. -/
  steps : List Step
  /-- The place of the next step to run. -/
  cursor : Nat := 0
  /-- The snapshot after the last step that ran. -/
  state : Snapshot
  /-- The snapshot the run started from. -/
  initial : Snapshot
  status : SequencerStatus := .idle
  /-- How triggers answer events. -/
  collector : Collector
  /-- The messages of the steps that ran, in order. -/
  messages : List String := []
  /-- The events of the steps that ran, in order. -/
  events : List Event := []

namespace Sequencer

/-- A sequencer that has not started. -/
def new (s : Snapshot) (steps : List Step) (collector : Collector) : Sequencer where
  steps := steps
  state := s
  initial := s
  collector := collector

/-- Gives the run up at a step that was refused. -/
def fail (q : Sequencer) (step : Step) (refusal : Refusal) : Sequencer × SequencerAnswer :=
  ({ q with status := .aborted refusal.message }, .failed q.state step.id refusal)

/-- Goes past the step at the cursor with its outcome: takes over its snapshot, message and events,
and puts the steps that triggers answer with directly behind it. -/
def accept (q : Sequencer) (out : Outcome) : Sequencer :=
  let answers := out.events.flatMap (q.collector out.state)
  { q with
    steps := q.steps.take (q.cursor + 1) ++ answers ++ q.steps.drop (q.cursor + 1)
    cursor := q.cursor + 1
    state := out.state
    messages := q.messages ++ out.message.toList
    events := q.events ++ out.events }

/-- Runs a step at the cursor with chosen cards. The run ends here if the step is refused. -/
def execute (q : Sequencer) (step : Step) (chosen : List InstanceId) :
    Sequencer × Option SequencerAnswer :=
  match step.run q.state chosen with
  | .ok out => (q.accept out, none)
  | .error refusal =>
    let (q', answer) := q.fail step refusal
    (q', some answer)

/-- What a run does at the cursor: it ends behind the last step, waits at a step that asks for
cards, fails at one that too few cards can answer, and runs any other. -/
def visit (q : Sequencer) : Sequencer × Option SequencerAnswer :=
  match q.steps[q.cursor]? with
  | none => ({ q with status := .complete }, some (.completed q.state))
  | some step =>
    let q := { q with status := .running q.cursor }
    match step.request q.state with
    | none => q.execute step []
    | some request =>
      if request.candidates.length < request.min.toNat then
        let (q', answer) :=
          q.fail step (.fewCandidates step.summary request.min request.candidates.length)
        (q', some answer)
      else ({ q with status := .awaiting q.cursor request }, some (.awaiting request))

/-- Goes on from step to step until the run ends or waits. Visits at most `fuel` steps. -/
def run : (fuel : Nat) → Sequencer → Option (Sequencer × SequencerAnswer)
  | 0, _ => none
  | fuel + 1, q =>
    match q.visit with
    | (q', some answer) => some (q', answer)
    | (q', none) => run fuel q'

/-- Starts the run. -/
def start (fuel : Nat) (q : Sequencer) :
    Except EngineFault (Option (Sequencer × SequencerAnswer)) :=
  match q.status with
  | .idle => .ok (q.run fuel)
  | _ => .error (.sequencer .idle)

/-- Answers the step that waits. Cards that are no answer are refused and the step still waits. -/
def provide (fuel : Nat) (q : Sequencer) (chosen : List InstanceId) :
    Except EngineFault (Option (Sequencer × SequencerAnswer)) :=
  match q.status, q.steps[q.cursor]? with
  | .awaiting _ request, some step =>
    match step.validate q.state chosen with
    | .error refusal => .ok (some (q, .rejected refusal request))
    | .ok () =>
      match { q with status := .running q.cursor }.execute step chosen with
      | (q', some answer) => .ok (some (q', answer))
      | (q', none) => .ok (q'.run fuel)
  | _, _ => .error (.sequencer .awaitingSelection)

/-- Cancels the run while a step waits that may be cancelled. -/
def cancel (q : Sequencer) : Except EngineFault (Sequencer × SequencerAnswer) :=
  match q.status with
  | .awaiting _ request =>
    if request.cancelable then
      .ok ({ q with status := .aborted "cancelled", state := q.initial }, .cancelled q.initial)
    else .ok (q, .rejected (.notCancelable request.summary) request)
  | _ => .error (.sequencer .awaitingSelection)

end Sequencer

end SoloDuel
