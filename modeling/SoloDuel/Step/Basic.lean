import SoloDuel.Step.Selection
/-!
# Steps

An activation is played out as a list of steps. A step is one change of the snapshot, which may
depend on cards chosen by the player.

* `Step` — a name, texts for the player, how much notice it gets, and its action.
* `Step.request` — what the player is asked, if the step waits for an answer.
-/

namespace SoloDuel

/-- How much notice the player gets of a step. -/
inductive Notice where
  /-- The step runs unnoticed. -/
  | silent
  /-- The step runs and its message is shown. -/
  | informational
  /-- The step waits for an answer. -/
  | interactive
  deriving DecidableEq

/-- One change of the snapshot. -/
structure Step where
  id : String
  /-- What the player is told the step does. -/
  summary : String
  /-- What the step does, at greater length. -/
  description : String := ""
  notice : Notice := .informational
  /-- The cards the player has to choose, if any. -/
  selection : Option CardSelection := none
  /-- The change, given the snapshot and the chosen cards. -/
  run : Snapshot → List InstanceId → Attempt

namespace Step

/-- The step asking for a choice of cards. It waits for the answer. -/
def asking (step : Step) (selection : CardSelection) : Step :=
  { step with selection := some selection, notice := .interactive }

/-- Whether the step waits for an answer before it runs. -/
def isInteractive (step : Step) : Bool := step.notice = .interactive

/-- What the player is asked while the step waits. A step that waits without a selection asks for
the empty answer. -/
def request (step : Step) (s : Snapshot) : Option SelectionRequest :=
  if step.isInteractive then
    match step.selection with
    | some selection => some (selection.request step.id step.summary s)
    | none =>
      some
        { stepId := step.id
          summary := step.summary
          candidates := []
          min := 0
          max := 0
          cancelable := false }
  else none

/-- Refuses chosen cards that are no answer to the step. -/
def validate (step : Step) (s : Snapshot) (chosen : List InstanceId) : Except Refusal Unit :=
  match step.selection with
  | some selection => selection.validate s chosen
  | none =>
    if chosen.isEmpty then .ok () else .error (.takesNone step.summary chosen.length)

end Step

end SoloDuel
