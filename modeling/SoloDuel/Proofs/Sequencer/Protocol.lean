import SoloDuel.Proofs.Sequencer.Calls
import SoloDuel.Step.Prebuilt
/-!
# The protocol of a sequencer

The status, the cursor, the steps, the snapshot and the request of a sequencer are changed apart
from each other, on many ways out of a call. Between calls they always fit together, whatever calls
were made and in whatever order.

* `Sequencer.Consistent` — how the fields fit together between calls.
* `Sequencer.Orderly` — what calls may do: a call at the wrong time is a fault, refused calls change
  nothing, cancelling goes back to the start, and an ended run stays ended.
* `Sequencer.protocol_of_play` — every series of calls keeps both.
-/

namespace SoloDuel

/-- Whether a call is made at the right time. -/
def SequencerStatus.allows : SequencerStatus → SequencerCall → Bool
  | .idle, .start => true
  | .awaiting .., .provide _ => true
  | .awaiting .., .cancel => true
  | _, _ => false

/-- Whether a run has ended. -/
def SequencerStatus.hasEnded : SequencerStatus → Bool
  | .complete => true
  | .aborted _ => true
  | _ => false

/-- Where the sequencer has to be for a call. -/
def SequencerCall.expected : SequencerCall → Expected
  | .start => .idle
  | .provide _ => .awaitingSelection
  | .cancel => .awaitingSelection

/-- Whether nothing came of a call: it was made at the wrong time, the chosen cards were no answer
or the step cannot be cancelled. -/
def CallResult.isRefusal : CallResult → Bool
  | .error _ => true
  | .ok (.rejected ..) => true
  | .ok _ => false

theorem SequencerStatus.allows_eq_false_of_hasEnded {status : SequencerStatus}
    (h : status.hasEnded = true) (c : SequencerCall) : status.allows c = false := by
  cases status <;> first | rfl | cases h

namespace Step

/-- Only a step that waits for an answer has a request. -/
theorem isInteractive_of_request {step : Step} {s : Snapshot} {request : SelectionRequest}
    (h : step.request s = some request) : step.isInteractive = true := by
  unfold Step.request at h
  split at h
  · assumption
  · cases h

end Step

namespace Sequencer

/-- How the fields of a sequencer fit together between calls. -/
structure Consistent (q : Sequencer) : Prop where
  /-- A call does not leave the run in the middle of a step. -/
  not_running : ∀ i, q.status ≠ .running i
  /-- Before the start nothing has happened. -/
  idle : q.status = .idle →
    q.cursor = 0 ∧ q.state = q.initial ∧ q.messages = [] ∧ q.events = []
  /-- What is asked is what the step at the cursor asks of the snapshot at hand, and it can be
  answered as far as the number of cards goes. -/
  awaiting : ∀ i request, q.status = .awaiting i request →
    i = q.cursor ∧ ∃ h : q.cursor < q.steps.length,
      q.steps[q.cursor].isInteractive = true ∧
      q.steps[q.cursor].request q.state = some request ∧
      request.min.toNat ≤ request.candidates.length
  /-- A complete run is behind its last step. -/
  complete : q.status = .complete → q.cursor = q.steps.length

/-- What the calls to a sequencer may do. -/
structure Orderly (q : Sequencer) : Prop where
  /-- A call is a fault exactly when it is made at the wrong time. -/
  fault_iff : ∀ fuel c fault, q.call fuel c = .error fault ↔
    q.status.allows c = false ∧ fault = .sequencer c.expected
  /-- A call of which nothing came changes nothing. -/
  unchanged : ∀ fuel c q' result,
    q.answer fuel c = some (q', result) → result.isRefusal = true → q' = q
  /-- Cancelling succeeds exactly while a request is open that may be cancelled. -/
  cancel_iff : ∀ fuel, (∃ q' t, q.call fuel .cancel = .ok (some (q', .cancelled t))) ↔
    ∃ i request, q.status = .awaiting i request ∧ request.cancelable = true
  /-- Cancelling goes back to the snapshot the run started from. -/
  cancel_eq : ∀ fuel q' t, q.call fuel .cancel = .ok (some (q', .cancelled t)) →
    t = q.initial ∧ q' = { q with status := .aborted "cancelled", state := q.initial }
  /-- An ended run stays as it is. -/
  absorbing : q.status.hasEnded = true → ∀ fuel calls q' log,
    q.play fuel calls = some (q', log) → q' = q

/-! ## What a walk keeps -/

/-- The cursor is at a step or behind the last one, and the run started from `s`. -/
structure Within (s : Snapshot) (q : Sequencer) : Prop where
  cursor_le : q.cursor ≤ q.steps.length
  initial : q.initial = s

variable {s : Snapshot} {q q' : Sequencer} {step : Step}

theorem lt_length_of_getElem? (h : q.steps[q.cursor]? = some step) :
    q.cursor < q.steps.length :=
  (List.getElem?_eq_some_iff.mp h).1

/-- Going past a step keeps the cursor within the steps, as nothing is taken out of them. -/
theorem Within.accept (hq : q.Within s) (hstep : q.steps[q.cursor]? = some step) (out : Outcome)
    (status : SequencerStatus) : ({ q with status := status }.accept out).Within s where
  cursor_le := by
    have hlt := lt_length_of_getElem? hstep
    simp only [Sequencer.accept, List.length_append, List.length_take]
    omega
  initial := hq.initial

theorem Walk.within (h : Walk q q') (hq : q.Within s) : q'.Within s := by
  induction h with
  | stop q => exact hq
  | past hstep _ _ _ ih => exact ih (hq.accept hstep _ _)

/-! ## What a call leaves behind -/

theorem consistent_of_aborted {reason : String} (h : q.status = .aborted reason) :
    q.Consistent where
  not_running := by simp [h]
  idle := by simp [h]
  awaiting := by simp [h]
  complete := by simp [h]

/-- The last visit of a run leaves a consistent sequencer. -/
theorem Visit.consistent {a : SequencerAnswer} (h : q.Visit q' (some a)) (hq : q.Within s) :
    q'.Consistent ∧ q'.Within s := by
  cases h with
  | ended hnone =>
    refine ⟨⟨?_, ?_, ?_, fun _ => ?_⟩, hq.cursor_le, hq.initial⟩
    · rintro i ⟨⟩
    · rintro ⟨⟩
    · rintro i request ⟨⟩
    · exact Nat.le_antisymm hq.cursor_le (List.getElem?_eq_none_iff.mp hnone)
  | asked hstep hrequest henough =>
    refine ⟨⟨?_, ?_, ?_, ?_⟩, hq.cursor_le, hq.initial⟩
    · rintro i ⟨⟩
    · rintro ⟨⟩
    · rintro i request ⟨⟩
      obtain ⟨hlt, rfl⟩ := List.getElem?_eq_some_iff.mp hstep
      exact ⟨rfl, hlt, Step.isInteractive_of_request hrequest, hrequest, henough⟩
    · rintro ⟨⟩
  | short => exact ⟨consistent_of_aborted rfl, hq.cursor_le, hq.initial⟩
  | refused => exact ⟨consistent_of_aborted rfl, hq.cursor_le, hq.initial⟩

/-- A call that returns leaves a consistent sequencer. -/
theorem Answers.consistent {c : SequencerCall} {a : SequencerAnswer} (h : q.Answers c q' a)
    (hc : q.Consistent) (hq : q.Within s) : q'.Consistent ∧ q'.Within s := by
  cases h with
  | started _ hwalk hlast => exact hlast.consistent (hwalk.within hq)
  | rejected => exact ⟨hc, hq⟩
  | failed => exact ⟨consistent_of_aborted rfl, hq.cursor_le, hq.initial⟩
  | resumed _ hstep _ _ hwalk hlast => exact hlast.consistent (hwalk.within (hq.accept hstep _ _))
  | cancelled => exact ⟨consistent_of_aborted rfl, hq.cursor_le, hq.initial⟩
  | kept => exact ⟨hc, hq⟩

theorem consistent_of_answer {fuel : Nat} {c : SequencerCall} {result : CallResult}
    (hc : q.Consistent) (hq : q.Within s) (h : q.answer fuel c = some (q', result)) :
    q'.Consistent ∧ q'.Within s := by
  rcases answers_of_answer h with ⟨fault, rfl, rfl⟩ | ⟨a, rfl, hanswers⟩
  · exact ⟨hc, hq⟩
  · exact hanswers.consistent hc hq

/-! ## What calls may do -/

/-- In a consistent sequencer the step that waits is there. -/
theorem Consistent.getElem?_isSome (hc : q.Consistent) {i : Nat} {request : SelectionRequest}
    (h : q.status = .awaiting i request) : ∃ step, q.steps[q.cursor]? = some step := by
  obtain ⟨-, hlt, -⟩ := hc.awaiting i request h
  exact ⟨_, List.getElem?_eq_getElem hlt⟩

theorem Consistent.call_eq_error_iff (hc : q.Consistent) (fuel : Nat) (c : SequencerCall)
    (fault : EngineFault) :
    q.call fuel c = .error fault ↔ q.status.allows c = false ∧ fault = .sequencer c.expected := by
  cases c with
  | start =>
    simp only [call, start, SequencerCall.expected]
    cases q.status <;> simp [SequencerStatus.allows, eq_comm]
  | cancel =>
    simp only [call, cancel, SequencerCall.expected]
    cases q.status with
    | awaiting i request =>
      by_cases hcancelable : request.cancelable = true <;>
        simp [SequencerStatus.allows, Except.map, hcancelable]
    | _ => simp [SequencerStatus.allows, Except.map, eq_comm]
  | provide chosen =>
    simp only [call, provide, SequencerCall.expected]
    cases hstatus : q.status with
    | awaiting i request =>
      -- the step is there, so every way out is an answer
      obtain ⟨step, hstep⟩ := hc.getElem?_isSome hstatus
      simp only [hstep, SequencerStatus.allows, Bool.true_eq_false, false_and, iff_false]
      intro h
      split at h
      · cases h
      · split at h <;> cases h
    | _ => simp [SequencerStatus.allows, eq_comm]

theorem eq_of_isRefusal {fuel : Nat} {c : SequencerCall} {result : CallResult}
    (h : q.answer fuel c = some (q', result)) (hr : result.isRefusal = true) : q' = q := by
  rcases answers_of_answer h with ⟨fault, rfl, rfl⟩ | ⟨a, rfl, ha⟩
  · rfl
  · cases ha with
    | rejected => rfl
    | kept => rfl
    | failed => cases hr
    | cancelled => cases hr
    | started _ _ hlast => cases hlast <;> cases hr
    | resumed _ _ _ _ _ hlast => cases hlast <;> cases hr

theorem cancel_eq_of_cancelled {fuel : Nat} {t : Snapshot}
    (h : q.call fuel .cancel = .ok (some (q', .cancelled t))) :
    (∃ i request, q.status = .awaiting i request ∧ request.cancelable = true) ∧
      t = q.initial ∧ q' = { q with status := .aborted "cancelled", state := q.initial } := by
  have ha := answers_of_call h
  cases ha with
  | cancelled hstatus hcancelable => exact ⟨⟨_, _, hstatus, hcancelable⟩, rfl, rfl⟩

theorem eq_of_cancel {t : Snapshot} (h : q.cancel = .ok (q', .cancelled t)) :
    t = q.initial ∧ q' = { q with status := .aborted "cancelled", state := q.initial } := by
  have hcall : q.call 0 .cancel = .ok (some (q', .cancelled t)) := by
    rw [call, h]
    rfl
  exact (cancel_eq_of_cancelled hcall).2

theorem call_cancel {i : Nat} {request : SelectionRequest} (fuel : Nat)
    (hstatus : q.status = .awaiting i request) (hcancelable : request.cancelable = true) :
    q.call fuel .cancel = .ok (some
      ({ q with status := .aborted "cancelled", state := q.initial }, .cancelled q.initial)) := by
  simp [call, cancel, hstatus, hcancelable, Except.map]

/-- A call to an ended run is a fault. -/
theorem Consistent.eq_of_hasEnded (hc : q.Consistent) (hended : q.status.hasEnded = true)
    {fuel : Nat} {c : SequencerCall} {result : CallResult}
    (h : q.answer fuel c = some (q', result)) : q' = q := by
  have hfault : q.call fuel c = .error (.sequencer c.expected) :=
    (hc.call_eq_error_iff fuel c _).mpr ⟨SequencerStatus.allows_eq_false_of_hasEnded hended c, rfl⟩
  rw [answer, hfault] at h
  cases h
  rfl

theorem Consistent.orderly (hc : q.Consistent) : q.Orderly where
  fault_iff := hc.call_eq_error_iff
  unchanged := fun _ _ _ _ h hr => eq_of_isRefusal h hr
  cancel_iff := fun fuel =>
    ⟨fun ⟨_, _, h⟩ => (cancel_eq_of_cancelled h).1,
      fun ⟨_, _, hstatus, hcancelable⟩ => ⟨_, _, call_cancel fuel hstatus hcancelable⟩⟩
  cancel_eq := fun _ _ _ h => (cancel_eq_of_cancelled h).2
  absorbing := fun hended _ _ q' _ h =>
    play_induction (P := fun r => r = q)
      (fun hr ha => by
        subst hr
        exact hc.eq_of_hasEnded hended ha) rfl h

/-! ## Every series of calls -/

theorem new_consistent (s : Snapshot) (steps : List Step) (collector : Collector) :
    (new s steps collector).Consistent where
  not_running := by rintro i ⟨⟩
  idle := fun _ => ⟨rfl, rfl, rfl, rfl⟩
  awaiting := by rintro i request ⟨⟩
  complete := by rintro ⟨⟩

theorem new_within (s : Snapshot) (steps : List Step) (collector : Collector) :
    (new s steps collector).Within s :=
  ⟨Nat.zero_le _, rfl⟩

/-- A series of calls leaves the fields fitting together. -/
theorem consistent_of_play {fuel : Nat} {steps : List Step} {collector : Collector}
    {calls : List SequencerCall} {log : CallLog}
    (h : (new s steps collector).play fuel calls = some (q, log)) : q.Consistent ∧ q.Within s :=
  play_induction (P := fun r => r.Consistent ∧ r.Within s)
    (fun hr ha => consistent_of_answer hr.1 hr.2 ha)
    ⟨new_consistent s steps collector, new_within s steps collector⟩ h

/-- A run that was cancelled is back at the snapshot it started from. -/
theorem state_eq_of_cancelled {t : Snapshot} {fuel : Nat} {calls : List SequencerCall}
    {log : CallLog} {c : SequencerCall} (hc : q.Consistent) (hq : q.Within s)
    (h : q.play fuel calls = some (q', log)) (hmem : (c, .ok (.cancelled t)) ∈ log) :
    t = s ∧ q'.state = s := by
  induction calls generalizing q log with
  | nil =>
    cases h
    cases hmem
  | cons call calls ih =>
    obtain ⟨q₁, result, rest, hanswer, hrest, rfl⟩ := playCalls_cons_eq_some.mp h
    obtain ⟨hc₁, hq₁⟩ := consistent_of_answer hc hq hanswer
    rcases List.mem_cons.mp hmem with hfirst | hlater
    · cases hfirst
      obtain ⟨fault, hfault, -⟩ | ⟨a, ha, hanswers⟩ := answers_of_answer hanswer
      · cases hfault
      · cases ha
        cases hanswers with
        | cancelled =>
          -- the run has ended, so the calls that follow change nothing
          obtain rfl := hc₁.orderly.absorbing rfl _ _ _ _ hrest
          exact ⟨hq.initial, hq.initial⟩
        | started _ _ hlast => cases hlast
        | resumed _ _ _ _ _ hlast => cases hlast
    · exact ih hc₁ hq₁ hrest hlater

/-- **The protocol of a sequencer.** Whatever calls are made to a new sequencer, in whatever order,
its fields fit together after each of them, the snapshot it started from is the same, and the calls
that follow do only what they may. -/
theorem protocol_of_play {fuel : Nat} {steps : List Step} {collector : Collector}
    {calls : List SequencerCall} {log : CallLog}
    (h : (new s steps collector).play fuel calls = some (q, log)) :
    q.Consistent ∧ q.initial = s ∧ q.Orderly := by
  obtain ⟨hconsistent, hwithin⟩ := consistent_of_play h
  exact ⟨hconsistent, hwithin.initial, hconsistent.orderly⟩

/-- A duel without cards. -/
def cardless : Snapshot where
  config := {}
  board := {}
  life := .both 8000
  phase := .draw
  turn := 1
  chain := []
  result := .ongoing
  normalSummonsLeft := 1
  usedCards := []
  usedEffects := []
  rng := ⟨0, 0⟩

/-- Steps of which the second waits, and may be cancelled. -/
def promptedSteps : List Step :=
  [.notify "tell" "told",
    (Step.notify "ask" "asked").asking { CardSelection.fixed [] 0 0 with cancelable := true }]

/-- A run that is answered too early, started, answered wrongly, cancelled and started again. -/
theorem protocol_of_cancelled_run : ∃ q log,
    (new cardless promptedSteps .silent).play 3
        [.provide [], .start, .provide [⟨7⟩], .cancel, .start] = some (q, log) ∧
      q.status = .aborted "cancelled" ∧ q.cursor = 1 ∧
      q.Consistent ∧ q.initial = cardless ∧ q.Orderly := by
  have h : (new cardless promptedSteps .silent).play 3
      [.provide [], .start, .provide [⟨7⟩], .cancel, .start] = some (_, _) := rfl
  exact ⟨_, _, h, rfl, rfl, protocol_of_play h⟩

end Sequencer

end SoloDuel
