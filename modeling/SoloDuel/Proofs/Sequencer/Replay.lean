import SoloDuel.Proofs.Sequencer.Worklist
/-!
# Replaying a run

The steps before the cursor of a sequencer are a record of the run: run again from the first
snapshot, with the choices that were accepted, they lead to the snapshot at hand.

* `Step.replay` — running steps in order, with choices for those that wait.
* `CallLog.accepted` — the choices that were accepted in a series of calls.
* `Sequencer.play_refines_worklist` — a sequencer gives what a worklist gives, and its steps are the
  record of the run.
-/

namespace SoloDuel

namespace Step

/-- The cards a step is run with, and the choices left: a step that waits takes the next choice. -/
def feed (step : Step) (choices : List (List InstanceId)) :
    Option (List InstanceId × List (List InstanceId)) :=
  if step.isInteractive then
    match choices with
    | [] => none
    | chosen :: rest => some (chosen, rest)
  else some ([], choices)

/-- Runs steps in order. Gives the snapshot after them and the choices left. -/
def replay : List Step → List (List InstanceId) → Snapshot →
    Option (Snapshot × List (List InstanceId))
  | [], choices, s => some (s, choices)
  | step :: steps, choices, s =>
    match step.feed choices with
    | none => none
    | some (chosen, rest) =>
      match step.run s chosen with
      | .error _ => none
      | .ok out => replay steps rest out.state

theorem replay_cons_eq_some {step : Step} {steps : List Step}
    {choices : List (List InstanceId)} {s : Snapshot}
    {r : Snapshot × List (List InstanceId)} :
    replay (step :: steps) choices s = some r ↔
      ∃ chosen rest out, step.feed choices = some (chosen, rest) ∧
        step.run s chosen = .ok out ∧ replay steps rest out.state = some r := by
  rw [replay]
  cases hfeed : step.feed choices with
  | none => simp
  | some p =>
    obtain ⟨chosen, rest⟩ := p
    simp only [Option.some.injEq, Prod.mk.injEq]
    constructor
    · intro h
      split at h
      · cases h
      · rename_i out hrun
        exact ⟨chosen, rest, out, ⟨rfl, rfl⟩, hrun, h⟩
    · rintro ⟨_, _, out, ⟨rfl, rfl⟩, hrun, h⟩
      rw [hrun]
      exact h

theorem feed_append {step : Step} {choices rest : List (List InstanceId)}
    {chosen : List InstanceId} (h : step.feed choices = some (chosen, rest))
    (more : List (List InstanceId)) :
    step.feed (choices ++ more) = some (chosen, rest ++ more) := by
  unfold feed at h ⊢
  by_cases hinteractive : step.isInteractive = true
  · rw [if_pos hinteractive] at h ⊢
    cases choices with
    | nil => cases h
    | cons c cs =>
      cases h
      rfl
  · rw [if_neg hinteractive] at h ⊢
    cases h
    rfl

/-- More choices than were needed are left over. -/
theorem replay_append_choices {steps : List Step} {choices left : List (List InstanceId)}
    {s t : Snapshot} (h : replay steps choices s = some (t, left))
    (more : List (List InstanceId)) :
    replay steps (choices ++ more) s = some (t, left ++ more) := by
  induction steps generalizing choices s with
  | nil =>
    cases h
    rfl
  | cons step steps ih =>
    obtain ⟨chosen, rest, out, hfeed, hrun, hrest⟩ := replay_cons_eq_some.mp h
    exact replay_cons_eq_some.mpr
      ⟨chosen, rest ++ more, out, feed_append hfeed more, hrun, ih hrest⟩

/-- Running one step more. -/
theorem replay_concat {steps : List Step} {step : Step} {choices left rest : List (List InstanceId)}
    {chosen : List InstanceId} {s t : Snapshot} {out : Outcome}
    (h : replay steps choices s = some (t, left)) (hfeed : step.feed left = some (chosen, rest))
    (hrun : step.run t chosen = .ok out) :
    replay (steps ++ [step]) choices s = some (out.state, rest) := by
  induction steps generalizing choices s with
  | nil =>
    cases h
    exact replay_cons_eq_some.mpr ⟨chosen, rest, out, hfeed, hrun, rfl⟩
  | cons first steps ih =>
    obtain ⟨chosen₁, rest₁, out₁, hfeed₁, hrun₁, hrest₁⟩ := replay_cons_eq_some.mp h
    exact replay_cons_eq_some.mpr ⟨chosen₁, rest₁, out₁, hfeed₁, hrun₁, ih hrest₁⟩

theorem isInteractive_eq_false_of_request {step : Step} {s : Snapshot}
    (h : step.request s = none) : step.isInteractive = false := by
  unfold Step.request at h
  split at h
  · split at h <;> cases h
  · rename_i hinteractive
    exact Bool.eq_false_iff.mpr hinteractive

theorem feed_of_request_none {step : Step} {s : Snapshot} (h : step.request s = none)
    (choices : List (List InstanceId)) : step.feed choices = some ([], choices) := by
  unfold feed
  rw [isInteractive_eq_false_of_request h]
  rfl

end Step

namespace CallLog

/-- The choice that was accepted in a call. -/
def acceptedIn : SequencerCall × CallResult → Option (List InstanceId)
  | (.provide _, .ok (.rejected ..)) => none
  | (.provide chosen, .ok _) => some chosen
  | _ => none

/-- The choices that were accepted, in order. -/
def accepted (log : CallLog) : List (List InstanceId) := log.filterMap acceptedIn

/-- Whether a call cancelled the run. -/
def hasCancelled (log : CallLog) : Bool :=
  log.any fun entry =>
    match entry.2 with
    | .ok (.cancelled _) => true
    | _ => false

theorem exists_of_hasCancelled {log : CallLog} (h : log.hasCancelled = true) :
    ∃ c t, (c, .ok (.cancelled t)) ∈ log := by
  obtain ⟨⟨c, result⟩, hmem, hresult⟩ := List.any_eq_true.mp h
  dsimp only at hresult
  split at hresult
  · rename_i t
    exact ⟨c, t, hmem⟩
  · cases hresult

end CallLog

namespace Sequencer

variable {s : Snapshot} {q q' : Sequencer} {step : Step}

/-- Replaying the steps before the cursor leads to the snapshot at hand. -/
def Replays (s : Snapshot) (choices left : List (List InstanceId)) (q : Sequencer) : Prop :=
  Step.replay (q.steps.take q.cursor) choices s = some (q.state, left)

theorem Replays.accept {choices left rest : List (List InstanceId)} {chosen : List InstanceId}
    {out : Outcome} (h : q.Replays s choices left) (hstep : q.steps[q.cursor]? = some step)
    (hfeed : step.feed left = some (chosen, rest)) (hrun : step.run q.state chosen = .ok out)
    (status : SequencerStatus) :
    ({ q with status := status }.accept out).Replays s choices rest := by
  unfold Replays
  rw [take_cursor_accept (q := { q with status := status }) hstep out]
  exact Step.replay_concat h hfeed hrun

theorem Walk.replays {choices left : List (List InstanceId)} (h : Walk q q')
    (hq : q.Replays s choices left) : q'.Replays s choices left := by
  induction h with
  | stop q => exact hq
  | past hstep hrequest hrun _ ih =>
    exact ih (hq.accept hstep (Step.feed_of_request_none hrequest left) hrun _)

theorem Visit.replays {choices left : List (List InstanceId)} {a : SequencerAnswer}
    (h : q.Visit q' (some a)) (hq : q.Replays s choices left) : q'.Replays s choices left := by
  cases h <;> exact hq

/-- The record of a run: nothing is left over of the choices, unless the run was given up. -/
def Recorded (s : Snapshot) (choices : List (List InstanceId)) (q : Sequencer) : Prop :=
  ∃ left, q.Replays s choices left ∧ (left ≠ [] → ∃ reason, q.status = .aborted reason)

theorem Recorded.replays {choices : List (List InstanceId)} (h : q.Recorded s choices)
    (hstatus : ∀ reason, q.status ≠ .aborted reason) : q.Replays s choices [] := by
  obtain ⟨left, hleft, haborted⟩ := h
  by_cases hnil : left = []
  · exact hnil ▸ hleft
  · obtain ⟨reason, hreason⟩ := haborted hnil
    exact absurd hreason (hstatus reason)

theorem Replays.recorded {choices : List (List InstanceId)} (h : q.Replays s choices []) :
    q.Recorded s choices :=
  ⟨[], h, fun hne => absurd rfl hne⟩

/-- A call keeps the record, with the choice it accepted, unless it cancels the run. -/
theorem Answers.recorded {choices : List (List InstanceId)} {c : SequencerCall}
    {a : SequencerAnswer} (h : q.Answers c q' a) (hc : q.Consistent)
    (hq : q.Recorded s choices) (ha : ∀ t, a ≠ .cancelled t) :
    q'.Recorded s (choices ++ (CallLog.acceptedIn (c, .ok a)).toList) := by
  cases h with
  | started hstatus hwalk hlast =>
    rw [show CallLog.acceptedIn (.start, .ok a) = none from rfl, Option.toList_none,
      List.append_nil]
    exact (hlast.replays (hwalk.replays (hq.replays (by simp [hstatus])))).recorded
  | rejected => simpa [CallLog.acceptedIn] using hq
  | @failed i request step chosen refusal hstatus =>
    have h₁ := Step.replay_append_choices (hq.replays (by simp [hstatus])) [chosen]
    exact ⟨[chosen], h₁, fun _ => ⟨_, rfl⟩⟩
  | @resumed i request step chosen out q₁ _ _ hstatus hstep _ hrun hwalk hlast =>
    have haccepted : CallLog.acceptedIn (.provide chosen, .ok a) = some chosen := by
      cases hlast <;> rfl
    rw [haccepted, Option.toList_some]
    have h₁ : q.Replays s (choices ++ [chosen]) [chosen] :=
      Step.replay_append_choices (hq.replays (by simp [hstatus])) [chosen]
    have hfeed : step.feed [chosen] = some (chosen, []) := by
      obtain ⟨-, hlt, hinteractive, -⟩ := hc.awaiting i request hstatus
      have hget : q.steps[q.cursor] = step :=
        Option.some.inj ((List.getElem?_eq_getElem hlt).symm.trans hstep)
      rw [Step.feed, if_pos (hget ▸ hinteractive)]
    exact (hlast.replays (hwalk.replays (h₁.accept hstep hfeed hrun _))).recorded
  | cancelled => exact absurd rfl (ha _)
  | kept => simpa [CallLog.acceptedIn] using hq

theorem recorded_of_answer {choices : List (List InstanceId)} {fuel : Nat} {c : SequencerCall}
    {result : CallResult} (hc : q.Consistent) (hq : q.Recorded s choices)
    (h : q.answer fuel c = some (q', result)) (hresult : ∀ t, result ≠ .ok (.cancelled t)) :
    q'.Recorded s (choices ++ (CallLog.acceptedIn (c, result)).toList) := by
  rcases answers_of_answer h with ⟨fault, rfl, rfl⟩ | ⟨a, rfl, hanswers⟩
  · cases c <;> simpa [CallLog.acceptedIn] using hq
  · exact hanswers.recorded hc hq fun t ht => hresult t (congrArg Except.ok ht)

theorem recorded_of_play {choices : List (List InstanceId)} {fuel : Nat}
    {calls : List SequencerCall} {log : CallLog} (hc : q.Consistent) (hw : q.Within s)
    (hq : q.Recorded s choices) (h : q.play fuel calls = some (q', log))
    (hlog : log.hasCancelled = false) : q'.Recorded s (choices ++ log.accepted) := by
  induction calls generalizing q log choices with
  | nil =>
    cases h
    simpa [CallLog.accepted] using hq
  | cons c calls ih =>
    obtain ⟨q₁, result, rest, h₁, h₂, rfl⟩ := playCalls_cons_eq_some.mp h
    simp only [CallLog.hasCancelled, List.any_cons, Bool.or_eq_false_iff] at hlog
    have hresult : ∀ t, result ≠ .ok (.cancelled t) := by
      rintro t rfl
      cases hlog.1
    have hkept := consistent_of_answer hc hw h₁
    have h₃ := ih hkept.1 hkept.2 (recorded_of_answer hc hq h₁ hresult) h₂ hlog.2
    have haccepted : choices ++ CallLog.accepted ((c, result) :: rest) =
        choices ++ (CallLog.acceptedIn (c, result)).toList ++ CallLog.accepted rest := by
      rw [List.append_assoc, CallLog.accepted, List.filterMap_cons]
      cases CallLog.acceptedIn (c, result) <;> rfl
    rw [haccepted]
    exact h₃

theorem new_recorded (s : Snapshot) (steps : List Step) (collector : Collector) :
    (new s steps collector).Recorded s [] :=
  Replays.recorded rfl

/-- **A sequencer is a worklist.** Any series of calls has the same results with both and leaves
both with the same snapshot, messages and events; the steps before the cursor are the ones the
worklist ran and the steps from the cursor on the ones it still has to run. No later call changes
the steps before the cursor, and run again with the choices that were accepted they lead to the
snapshot at hand, unless the run was cancelled. -/
theorem play_refines_worklist (fuel : Nat) (s : Snapshot) (steps : List Step)
    (collector : Collector) (calls : List SequencerCall) :
    ((new s steps collector).play fuel calls).map (Prod.map toWorklist id) =
        (Worklist.new s steps collector).play fuel calls ∧
      ∀ q log, (new s steps collector).play fuel calls = some (q, log) →
        (∀ fuel' more q' log', q.play fuel' more = some (q', log') → Extends q q') ∧
        (log.hasCancelled = false → q.Recorded q.initial log.accepted) := by
  refine ⟨map_playCalls (toWorklist_answer fuel) calls _, fun q log h => ⟨?_, fun hlog => ?_⟩⟩
  · intro fuel' more q' log' hmore
    exact extends_of_play hmore
  · rw [(protocol_of_play h).2.1]
    exact recorded_of_play (new_consistent s steps collector) (new_within s steps collector)
      (new_recorded s steps collector) h hlog

/-- A step that changes nothing and reports an event. -/
def report (id : String) (event : Event) : Step where
  id := id
  summary := id
  run s _ := .ok { state := s, message := some id, events := [event] }

/-- Answers a draw with a report of a gain, and a gain with a notice. -/
def echo : Collector := fun _ event =>
  match event with
  | .cardsDrawn _ => [report "second" (.lifeChanged .player 1), .notify "fourth" "fourth"]
  | .lifeChanged .. => [.notify "third" "third"]
  | _ => []

/-- A report and a step that waits. -/
def echoedSteps : List Step :=
  [report "first" (.cardsDrawn 1), (Step.notify "fifth" "fifth").asking (.fixed [] 0 0)]

/-- A start, a wrong answer and the right one. -/
def echoedCalls : List SequencerCall := [.start, .provide [⟨7⟩], .provide []]

/-- A run in which what triggers answer is answered by triggers again. -/
theorem play_refines_worklist_of_nested_triggers : ∃ q log,
    (new cardless echoedSteps echo).play 6 echoedCalls = some (q, log) ∧
      q.steps.map (·.id) = ["first", "second", "third", "fourth", "fifth"] ∧
      log.hasCancelled = false ∧
      (Worklist.new cardless echoedSteps echo).play 6 echoedCalls = some (q.toWorklist, log) ∧
      q.Recorded q.initial log.accepted := by
  obtain ⟨⟨q, log⟩, h⟩ : ∃ r, (new cardless echoedSteps echo).play 6 echoedCalls = some r :=
    ⟨_, rfl⟩
  have hview : ((new cardless echoedSteps echo).play 6 echoedCalls).map
      (fun r => (r.1.steps.map (·.id), r.2.hasCancelled)) =
        some (["first", "second", "third", "fourth", "fifth"], false) := by decide
  rw [h, Option.map_some, Option.some.injEq, Prod.mk.injEq] at hview
  have hrefines := play_refines_worklist 6 cardless echoedSteps echo echoedCalls
  rw [h] at hrefines
  exact ⟨q, log, h, hview.1, hview.2, hrefines.1.symm, (hrefines.2 q log rfl).2 hview.2⟩

end Sequencer

end SoloDuel
