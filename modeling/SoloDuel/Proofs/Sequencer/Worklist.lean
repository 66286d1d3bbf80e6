import SoloDuel.Proofs.Sequencer.Protocol
/-!
# A sequencer is a worklist

A sequencer keeps one growing list of steps and a cursor into it, and puts the steps that triggers
answer with into the middle of the list. A worklist has no cursor: it keeps the steps that are still
to be run, takes the first one off, and puts what triggers answer with in front of the rest.

* `Worklist` — the interpreter; `Sequencer.toWorklist` — what a sequencer is as one.
* `toWorklist_visit`, `toWorklist_call` — one visit and one call of the two go together.
* `extends_of_play` — no call changes the steps before the cursor.
-/

namespace SoloDuel

/-! ## The interpreter -/

/-- Where a worklist run is. -/
inductive WorklistStage where
  | idle
  | running
  | awaiting (request : SelectionRequest)
  | complete
  | aborted (reason : String)

/-- A list of steps being worked off. -/
structure Worklist where
  /-- The steps that are still to be run, the next one first. -/
  pending : List Step
  /-- The steps that ran, in the order they ran. -/
  executed : List Step := []
  state : Snapshot
  initial : Snapshot
  stage : WorklistStage := .idle
  collector : Collector
  messages : List String := []
  events : List Event := []

namespace Worklist

/-- A worklist that has not started. -/
def new (s : Snapshot) (steps : List Step) (collector : Collector) : Worklist where
  pending := steps
  state := s
  initial := s
  collector := collector

/-- Goes past the first step with its outcome. What triggers answer to its events, in order and on
the snapshot after it, comes before the rest. -/
def advance (w : Worklist) (step : Step) (rest : List Step) (out : Outcome) : Worklist :=
  { w with
    pending := out.events.flatMap (w.collector out.state) ++ rest
    executed := w.executed ++ [step]
    state := out.state
    stage := .running
    messages := w.messages ++ out.message.toList
    events := w.events ++ out.events }

/-- Gives the run up. -/
def abort (w : Worklist) (step : Step) (refusal : Refusal) : Worklist × SequencerAnswer :=
  ({ w with stage := .aborted refusal.message }, .failed w.state step.id refusal)

/-- Runs the first step with chosen cards. -/
def execute (w : Worklist) (step : Step) (rest : List Step) (chosen : List InstanceId) :
    Worklist × Option SequencerAnswer :=
  match step.run w.state chosen with
  | .ok out => (w.advance step rest out, none)
  | .error refusal => ((w.abort step refusal).1, some (w.abort step refusal).2)

/-- Takes up the first step. -/
def visit (w : Worklist) : Worklist × Option SequencerAnswer :=
  match w.pending with
  | [] => ({ w with stage := .complete }, some (.completed w.state))
  | step :: rest =>
    match step.request w.state with
    | none => w.execute step rest []
    | some request =>
      if request.candidates.length < request.min.toNat then
        let refusal := .fewCandidates step.summary request.min request.candidates.length
        ((w.abort step refusal).1, some (w.abort step refusal).2)
      else ({ w with stage := .awaiting request }, some (.awaiting request))

/-- Works off steps until the run ends or waits. -/
def run : (fuel : Nat) → Worklist → Option (Worklist × SequencerAnswer)
  | 0, _ => none
  | fuel + 1, w =>
    match w.visit with
    | (w', some a) => some (w', a)
    | (w', none) => run fuel w'

/-- Makes a call. -/
def call (fuel : Nat) (w : Worklist) :
    SequencerCall → Except EngineFault (Option (Worklist × SequencerAnswer))
  | .start =>
    match w.stage with
    | .idle => .ok (w.run fuel)
    | _ => .error (.sequencer .idle)
  | .provide chosen =>
    match w.stage, w.pending with
    | .awaiting request, step :: rest =>
      match step.validate w.state chosen with
      | .error refusal => .ok (some (w, .rejected refusal request))
      | .ok () =>
        match w.execute step rest chosen with
        | (w', some a) => .ok (some (w', a))
        | (w', none) => .ok (w'.run fuel)
    | _, _ => .error (.sequencer .awaitingSelection)
  | .cancel =>
    match w.stage with
    | .awaiting request =>
      if request.cancelable then
        .ok (some ({ w with stage := .aborted "cancelled", state := w.initial },
          .cancelled w.initial))
      else .ok (some (w, .rejected (.notCancelable request.summary) request))
    | _ => .error (.sequencer .awaitingSelection)

/-- The worklist after a call, and what came of the call. -/
def answer (fuel : Nat) (w : Worklist) (c : SequencerCall) : Option (Worklist × CallResult) :=
  match w.call fuel c with
  | .error fault => some (w, .error fault)
  | .ok none => none
  | .ok (some (w', a)) => some (w', .ok a)

/-- Makes calls in order and notes what came of each. -/
def play (fuel : Nat) (calls : List SequencerCall) (w : Worklist) : Option (Worklist × CallLog) :=
  playCalls (answer fuel) calls w

end Worklist

/-- A status without the place of the step. -/
def SequencerStatus.stage : SequencerStatus → WorklistStage
  | .idle => .idle
  | .running _ => .running
  | .awaiting _ request => .awaiting request
  | .complete => .complete
  | .aborted reason => .aborted reason

namespace Sequencer

/-- A sequencer as a worklist: what is before the cursor ran, what is from the cursor on is still to
be run. -/
def toWorklist (q : Sequencer) : Worklist where
  pending := q.steps.drop q.cursor
  executed := q.steps.take q.cursor
  state := q.state
  initial := q.initial
  stage := q.status.stage
  collector := q.collector
  messages := q.messages
  events := q.events

/-! ## The two go together -/

variable {q q' : Sequencer} {step : Step}

theorem drop_cursor_of_none (h : q.steps[q.cursor]? = none) : q.steps.drop q.cursor = [] :=
  List.drop_eq_nil_of_le (List.getElem?_eq_none_iff.mp h)

theorem drop_cursor_of_some (h : q.steps[q.cursor]? = some step) :
    q.steps.drop q.cursor = step :: q.steps.drop (q.cursor + 1) := by
  obtain ⟨hlt, rfl⟩ := List.getElem?_eq_some_iff.mp h
  exact List.drop_eq_getElem_cons hlt

theorem take_cursor_of_some (h : q.steps[q.cursor]? = some step) :
    q.steps.take (q.cursor + 1) = q.steps.take q.cursor ++ [step] := by
  rw [List.take_add_one, h, Option.toList_some]

/-- The steps before the new cursor: what triggers answered is behind it. -/
theorem take_cursor_accept (h : q.steps[q.cursor]? = some step) (out : Outcome) :
    (q.accept out).steps.take (q.accept out).cursor = q.steps.take q.cursor ++ [step] := by
  have hlen : (q.steps.take (q.cursor + 1)).length = q.cursor + 1 :=
    List.length_take_of_le (lt_length_of_getElem? h)
  simp only [accept, List.append_assoc]
  rw [List.take_left' hlen, take_cursor_of_some h]

theorem drop_cursor_accept (h : q.steps[q.cursor]? = some step) (out : Outcome) :
    (q.accept out).steps.drop (q.accept out).cursor =
      out.events.flatMap (q.collector out.state) ++ q.steps.drop (q.cursor + 1) := by
  have hlen : (q.steps.take (q.cursor + 1)).length = q.cursor + 1 :=
    List.length_take_of_le (lt_length_of_getElem? h)
  simp only [accept, List.append_assoc]
  rw [List.drop_left' hlen]

/-- Going past a step: the splice behind the cursor is putting in front of the rest. -/
theorem toWorklist_accept (h : q.steps[q.cursor]? = some step) (out : Outcome) (i : Nat) :
    ({ q with status := .running i }.accept out).toWorklist =
      q.toWorklist.advance step (q.steps.drop (q.cursor + 1)) out := by
  have hexecuted := take_cursor_accept (q := { q with status := .running i }) h out
  have hpending := drop_cursor_accept (q := { q with status := .running i }) h out
  simp only [toWorklist, Worklist.advance, hexecuted, hpending]
  rfl

theorem toWorklist_execute (h : q.steps[q.cursor]? = some step) (chosen : List InstanceId)
    (i : Nat) :
    q.toWorklist.execute step (q.steps.drop (q.cursor + 1)) chosen =
      Prod.map toWorklist id ({ q with status := .running i }.execute step chosen) := by
  unfold execute Worklist.execute
  simp only [toWorklist]
  cases hrun : step.run q.state chosen with
  | error refusal => rfl
  | ok out =>
    simp only [Prod.map_apply, id_eq]
    rw [toWorklist_accept h out i]
    rfl

/-- **One visit.** -/
theorem toWorklist_visit (q : Sequencer) :
    q.toWorklist.visit = Prod.map toWorklist id q.visit := by
  unfold visit Worklist.visit
  cases hstep : q.steps[q.cursor]? with
  | none => simp [toWorklist, drop_cursor_of_none hstep, SequencerStatus.stage]
  | some step =>
    have hpending : q.toWorklist.pending = step :: q.steps.drop (q.cursor + 1) :=
      drop_cursor_of_some hstep
    simp only [hpending]
    cases hrequest : step.request q.state with
    | none =>
      simp only [toWorklist, hrequest]
      exact toWorklist_execute hstep [] q.cursor
    | some request =>
      simp only [toWorklist, hrequest]
      split
      · simp [fail, Worklist.abort, toWorklist, drop_cursor_of_some hstep, SequencerStatus.stage]
      · simp [toWorklist, drop_cursor_of_some hstep, SequencerStatus.stage]

theorem toWorklist_run (fuel : Nat) (q : Sequencer) :
    q.toWorklist.run fuel = (q.run fuel).map (Prod.map toWorklist id) := by
  induction fuel generalizing q with
  | zero => rfl
  | succ fuel ih =>
    rw [run, Worklist.run, toWorklist_visit]
    obtain ⟨q₁, b⟩ := q.visit
    cases b with
    | none => exact ih q₁
    | some a => rfl

/-- **One call.** -/
theorem toWorklist_call (fuel : Nat) (q : Sequencer) (c : SequencerCall) :
    q.toWorklist.call fuel c = (q.call fuel c).map (Option.map (Prod.map toWorklist id)) := by
  cases c with
  | start =>
    simp only [call, start, Worklist.call]
    cases hstatus : q.status <;> simp only [toWorklist, hstatus, SequencerStatus.stage, Except.map]
    rw [← toWorklist_run]
    simp [toWorklist, hstatus, SequencerStatus.stage]
  | cancel =>
    simp only [call, cancel, Worklist.call]
    cases hstatus : q.status with
    | awaiting i request =>
      simp only [toWorklist, hstatus, SequencerStatus.stage]
      split <;> simp [Except.map, toWorklist, hstatus, SequencerStatus.stage]
    | _ => simp [toWorklist, hstatus, SequencerStatus.stage, Except.map]
  | provide chosen =>
    simp only [call, provide, Worklist.call]
    cases hstatus : q.status with
    | awaiting i request =>
      cases hstep : q.steps[q.cursor]? with
      | none =>
        simp [toWorklist, hstatus, SequencerStatus.stage, drop_cursor_of_none hstep, Except.map]
      | some step =>
        have hpending : q.toWorklist.pending = step :: q.steps.drop (q.cursor + 1) :=
          drop_cursor_of_some hstep
        have hstage : q.toWorklist.stage = .awaiting request := by
          simp [toWorklist, hstatus, SequencerStatus.stage]
        simp only [hpending, hstage, toWorklist_execute hstep chosen q.cursor]
        cases hvalidate : step.validate q.state chosen with
        | error refusal =>
          simp only [toWorklist, hvalidate, Except.map]
          rfl
        | ok =>
          have hvalidate' : step.validate q.toWorklist.state chosen = .ok () := hvalidate
          simp only [hvalidate']
          generalize execute _ step chosen = r
          obtain ⟨q₁, b⟩ := r
          cases b with
          | none => exact congrArg Except.ok (toWorklist_run fuel q₁)
          | some a => rfl
    | _ => simp [toWorklist, hstatus, SequencerStatus.stage, Except.map]

theorem toWorklist_answer (fuel : Nat) (q : Sequencer) (c : SequencerCall) :
    (q.answer fuel c).map (Prod.map toWorklist id) = q.toWorklist.answer fuel c := by
  unfold answer Worklist.answer
  rw [toWorklist_call]
  cases q.call fuel c with
  | error fault => rfl
  | ok r => cases r <;> rfl

/-! ## The steps before the cursor -/

/-- A later sequencer has the same steps before the earlier cursor. -/
structure Extends (q q' : Sequencer) : Prop where
  cursor_le : q.cursor ≤ q'.cursor
  take_eq : q'.steps.take q.cursor = q.steps.take q.cursor

theorem Extends.refl (q : Sequencer) : Extends q q := ⟨Nat.le_refl _, rfl⟩

theorem Extends.trans {q₁ q₂ q₃ : Sequencer} (h₁ : Extends q₁ q₂) (h₂ : Extends q₂ q₃) :
    Extends q₁ q₃ where
  cursor_le := Nat.le_trans h₁.cursor_le h₂.cursor_le
  take_eq := by
    calc q₃.steps.take q₁.cursor
        = (q₃.steps.take q₂.cursor).take q₁.cursor := by
          rw [List.take_take, Nat.min_eq_left h₁.cursor_le]
      _ = (q₂.steps.take q₂.cursor).take q₁.cursor := by rw [h₂.take_eq]
      _ = q₂.steps.take q₁.cursor := by rw [List.take_take, Nat.min_eq_left h₁.cursor_le]
      _ = q₁.steps.take q₁.cursor := h₁.take_eq

theorem extends_accept (h : q.steps[q.cursor]? = some step) (out : Outcome)
    (status : SequencerStatus) : Extends q ({ q with status := status }.accept out) where
  cursor_le := Nat.le_succ _
  take_eq := by
    have hle : q.cursor ≤ (q.steps.take q.cursor).length :=
      Nat.le_of_eq (List.length_take_of_le (Nat.le_of_lt (lt_length_of_getElem? h))).symm
    calc ({ q with status := status }.accept out).steps.take q.cursor
        = (({ q with status := status }.accept out).steps.take (q.cursor + 1)).take q.cursor := by
          rw [List.take_take, Nat.min_eq_left (Nat.le_succ _)]
      _ = (q.steps.take q.cursor ++ [step]).take q.cursor := by
          rw [← take_cursor_accept (q := { q with status := status }) h out]
          rfl
      _ = q.steps.take q.cursor := by
          rw [List.take_append_of_le_length hle, List.take_take, Nat.min_self]

theorem Walk.extends (h : Walk q q') : Extends q q' := by
  induction h with
  | stop q => exact .refl q
  | past hstep _ _ _ ih => exact (extends_accept hstep _ _).trans ih

theorem Visit.extends {a : SequencerAnswer} (h : q.Visit q' (some a)) : Extends q q' := by
  cases h <;> exact ⟨Nat.le_refl _, rfl⟩

theorem Answers.extends {c : SequencerCall} {a : SequencerAnswer} (h : q.Answers c q' a) :
    Extends q q' := by
  cases h with
  | started _ hwalk hlast => exact hwalk.extends.trans hlast.extends
  | rejected => exact .refl q
  | failed => exact ⟨Nat.le_refl _, rfl⟩
  | resumed _ hstep _ _ hwalk hlast =>
    exact ((extends_accept hstep _ _).trans hwalk.extends).trans hlast.extends
  | cancelled => exact ⟨Nat.le_refl _, rfl⟩
  | kept => exact .refl q

theorem extends_of_answer {fuel : Nat} {c : SequencerCall} {result : CallResult}
    (h : q.answer fuel c = some (q', result)) : Extends q q' := by
  rcases answers_of_answer h with ⟨fault, -, rfl⟩ | ⟨a, -, hanswers⟩
  · exact .refl _
  · exact hanswers.extends

theorem extends_of_play {fuel : Nat} {calls : List SequencerCall} {log : CallLog}
    (h : q.play fuel calls = some (q', log)) : Extends q q' :=
  play_induction (P := Extends q) (fun hq ha => hq.trans (extends_of_answer ha)) (.refl q) h

end Sequencer

end SoloDuel
