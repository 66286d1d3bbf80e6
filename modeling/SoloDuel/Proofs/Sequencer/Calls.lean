import SoloDuel.Sequencer
/-!
# Calls to a sequencer

What one call to a sequencer can do, said once, so that nothing later has to open the loop.

* `SequencerCall`, `Sequencer.call` — the three calls as data.
* `playCalls`, `Sequencer.play` — a series of calls; a call at the wrong time is noted and changes
  nothing.
* `Sequencer.Visit`, `visit_spec` — the five things that can happen at the cursor.
* `Sequencer.Advances` — what visits and choices make of a sequencer.
* `Sequencer.Walk` — going on over steps that run at once; `exists_walk_of_run` says that a run is a
  walk and one last visit.
* `Sequencer.Answers`, `answers_of_call` — the six things that can come of a call that returns.
* `Answers.preserves` — what every step keeps, a call keeps.
-/

namespace SoloDuel

/-- A call to a sequencer. -/
inductive SequencerCall where
  | start
  | provide (chosen : List InstanceId)
  | cancel
  deriving DecidableEq

/-- What came of a call that returned. -/
abbrev CallResult := Except EngineFault SequencerAnswer

/-- Calls in order, each with what came of it. -/
abbrev CallLog := List (SequencerCall × CallResult)

/-- Makes calls in order to a machine that answers them and notes what came of each. -/
def playCalls {σ : Type} (answer : σ → SequencerCall → Option (σ × CallResult)) :
    List SequencerCall → σ → Option (σ × CallLog)
  | [], m => some (m, [])
  | c :: rest, m => do
    let (m₁, result) ← answer m c
    let (m₂, log) ← playCalls answer rest m₁
    return (m₂, (c, result) :: log)

theorem playCalls_cons_eq_some {σ : Type} {answer : σ → SequencerCall → Option (σ × CallResult)}
    {c : SequencerCall} {calls : List SequencerCall} {m m' : σ} {log : CallLog} :
    playCalls answer (c :: calls) m = some (m', log) ↔
      ∃ m₁ result rest, answer m c = some (m₁, result) ∧
        playCalls answer calls m₁ = some (m', rest) ∧ log = (c, result) :: rest := by
  simp only [playCalls, Option.bind_eq_bind, Option.bind_eq_some_iff, Option.pure_def,
    Option.some.injEq, Prod.mk.injEq, Prod.exists]
  constructor
  · rintro ⟨m₁, result, h₁, m₂, rest, h₂, rfl, rfl⟩
    exact ⟨m₁, result, rest, h₁, h₂, rfl⟩
  · rintro ⟨m₁, result, rest, h₁, h₂, rfl⟩
    exact ⟨m₁, result, h₁, m', rest, h₂, rfl, rfl⟩

/-- A map that goes along with every call goes along with a series of calls. -/
theorem map_playCalls {σ τ : Type} {answer : σ → SequencerCall → Option (σ × CallResult)}
    {answer' : τ → SequencerCall → Option (τ × CallResult)} {f : σ → τ}
    (h : ∀ m c, (answer m c).map (Prod.map f id) = answer' (f m) c)
    (calls : List SequencerCall) (m : σ) :
    (playCalls answer calls m).map (Prod.map f id) = playCalls answer' calls (f m) := by
  induction calls generalizing m with
  | nil => rfl
  | cons c calls ih =>
    rw [playCalls, playCalls, ← h m c]
    cases answer m c with
    | none => rfl
    | some r =>
      obtain ⟨m₁, result⟩ := r
      simp only [Option.bind_eq_bind, Option.bind_some, Option.map_some, Prod.map_apply, id_eq,
        ← ih m₁]
      cases playCalls answer calls m₁ <;> rfl

namespace Sequencer

/-- Makes a call. Nothing comes of it when the steps it may visit do not suffice. -/
def call (fuel : Nat) (q : Sequencer) :
    SequencerCall → Except EngineFault (Option (Sequencer × SequencerAnswer))
  | .start => q.start fuel
  | .provide chosen => q.provide fuel chosen
  | .cancel => q.cancel.map some

/-- The sequencer after a call, and what came of the call. A call at the wrong time leaves the
sequencer as it is. -/
def answer (fuel : Nat) (q : Sequencer) (c : SequencerCall) : Option (Sequencer × CallResult) :=
  match q.call fuel c with
  | .error fault => some (q, .error fault)
  | .ok none => none
  | .ok (some (q', a)) => some (q', .ok a)

/-- Makes calls in order and notes what came of each. -/
def play (fuel : Nat) (calls : List SequencerCall) (q : Sequencer) : Option (Sequencer × CallLog) :=
  playCalls (answer fuel) calls q

/-- **What every call keeps, a series of calls keeps.** -/
theorem play_induction {P : Sequencer → Prop} {fuel : Nat}
    (step : ∀ {q q' c result}, P q → q.answer fuel c = some (q', result) → P q')
    {calls : List SequencerCall} {q q' : Sequencer} {log : CallLog}
    (hq : P q) (h : q.play fuel calls = some (q', log)) : P q' := by
  induction calls generalizing q log with
  | nil =>
    cases h
    exact hq
  | cons c calls ih =>
    obtain ⟨q₁, result, rest, h₁, h₂, -⟩ := playCalls_cons_eq_some.mp h
    exact ih (step hq h₁) h₂

/-! ## One visit -/

/-- What can happen at the cursor. -/
inductive Visit (q : Sequencer) : Sequencer → Option SequencerAnswer → Prop
  /-- No step is left. -/
  | ended : q.steps[q.cursor]? = none →
      Visit q { q with status := .complete } (some (.completed q.state))
  /-- The step waits for an answer. -/
  | asked {step : Step} {request : SelectionRequest} :
      q.steps[q.cursor]? = some step → step.request q.state = some request →
      request.min.toNat ≤ request.candidates.length →
      Visit q { q with status := .awaiting q.cursor request } (some (.awaiting request))
  /-- The step asks for more cards than there are. -/
  | short {step : Step} {request : SelectionRequest} {refusal : Refusal} :
      q.steps[q.cursor]? = some step → step.request q.state = some request →
      request.candidates.length < request.min.toNat →
      Visit q { q with status := .aborted refusal.message }
        (some (.failed q.state step.id refusal))
  /-- The step is refused. -/
  | refused {step : Step} {refusal : Refusal} :
      q.steps[q.cursor]? = some step → step.request q.state = none →
      step.run q.state [] = .error refusal →
      Visit q { q with status := .aborted refusal.message }
        (some (.failed q.state step.id refusal))
  /-- The step runs. -/
  | ran {step : Step} {out : Outcome} :
      q.steps[q.cursor]? = some step → step.request q.state = none →
      step.run q.state [] = .ok out →
      Visit q ({ q with status := .running q.cursor }.accept out) none

/-- **A visit does one of the five things.** -/
theorem visit_spec (q : Sequencer) : q.Visit q.visit.1 q.visit.2 := by
  unfold visit
  split
  · rename_i hstep
    exact .ended hstep
  · rename_i step hstep
    dsimp only
    split
    · rename_i hrequest
      unfold execute
      split
      · rename_i out hrun
        exact .ran hstep hrequest hrun
      · rename_i refusal hrun
        exact .refused hstep hrequest hrun
    · rename_i request hrequest
      split
      · rename_i hfew
        exact .short hstep hrequest hfew
      · rename_i henough
        exact .asked hstep hrequest (Nat.le_of_not_lt henough)

/-- What visits and choices make of a sequencer: another status, and perhaps a step that has run. -/
inductive Advances (q : Sequencer) : Sequencer → Prop
  /-- No step runs. -/
  | paused (status : SequencerStatus) : Advances q { q with status := status }
  /-- The step at the cursor runs. -/
  | ran (status : SequencerStatus) {step : Step} {chosen : List InstanceId} {out : Outcome} :
      q.steps[q.cursor]? = some step → step.run q.state chosen = .ok out →
      Advances q ({ q with status := status }.accept out)

theorem advances_visit (q : Sequencer) : q.Advances q.visit.1 := by
  have hvisit := q.visit_spec
  generalize q.visit = r at hvisit
  obtain ⟨q', b⟩ := r
  cases hvisit with
  | ended | asked | short | refused => exact .paused _
  | ran hstep _ hrun => exact .ran _ hstep hrun

theorem advances_execute {q : Sequencer} {step : Step} (hstep : q.steps[q.cursor]? = some step)
    (status : SequencerStatus) (chosen : List InstanceId) :
    q.Advances ({ q with status := status }.execute step chosen).1 := by
  unfold execute
  split
  · rename_i out hrun
    exact .ran status hstep hrun
  · exact .paused _

/-- Going on from step to step, over steps that run at once. -/
inductive Walk : Sequencer → Sequencer → Prop
  | stop (q : Sequencer) : Walk q q
  | past {q q' : Sequencer} {step : Step} {out : Outcome} :
      q.steps[q.cursor]? = some step → step.request q.state = none →
      step.run q.state [] = .ok out →
      Walk ({ q with status := .running q.cursor }.accept out) q' → Walk q q'

/-- A run is a walk and one last visit. -/
theorem exists_walk_of_run {fuel : Nat} {q q' : Sequencer} {a : SequencerAnswer}
    (h : q.run fuel = some (q', a)) : ∃ q₁, Walk q q₁ ∧ q₁.Visit q' (some a) := by
  induction fuel generalizing q with
  | zero => cases h
  | succ fuel ih =>
    rw [run] at h
    have hvisit := q.visit_spec
    split at h
    · rename_i q₁ b hv
      cases h
      rw [hv] at hvisit
      exact ⟨q, .stop q, hvisit⟩
    · rename_i q₁ hv
      rw [hv] at hvisit
      cases hvisit with
      | ran hstep hrequest hrun =>
        obtain ⟨q₂, hwalk, hlast⟩ := ih h
        exact ⟨q₂, .past hstep hrequest hrun hwalk, hlast⟩

/-! ## One call -/

/-- What can come of a call that returns. -/
inductive Answers (q : Sequencer) : SequencerCall → Sequencer → SequencerAnswer → Prop
  | started {q₁ q' : Sequencer} {a : SequencerAnswer} :
      q.status = .idle → Walk q q₁ → q₁.Visit q' (some a) → Answers q .start q' a
  /-- The chosen cards are no answer. -/
  | rejected {i : Nat} {request : SelectionRequest} {step : Step} {chosen : List InstanceId}
      {refusal : Refusal} :
      q.status = .awaiting i request → q.steps[q.cursor]? = some step →
      step.validate q.state chosen = .error refusal →
      Answers q (.provide chosen) q (.rejected refusal request)
  /-- The step is refused with the chosen cards. -/
  | failed {i : Nat} {request : SelectionRequest} {step : Step} {chosen : List InstanceId}
      {refusal : Refusal} :
      q.status = .awaiting i request → q.steps[q.cursor]? = some step →
      step.validate q.state chosen = .ok () → step.run q.state chosen = .error refusal →
      Answers q (.provide chosen) { q with status := .aborted refusal.message }
        (.failed q.state step.id refusal)
  /-- The step runs with the chosen cards, and the run goes on. -/
  | resumed {i : Nat} {request : SelectionRequest} {step : Step} {chosen : List InstanceId}
      {out : Outcome} {q₁ q' : Sequencer} {a : SequencerAnswer} :
      q.status = .awaiting i request → q.steps[q.cursor]? = some step →
      step.validate q.state chosen = .ok () → step.run q.state chosen = .ok out →
      Walk ({ q with status := .running q.cursor }.accept out) q₁ → q₁.Visit q' (some a) →
      Answers q (.provide chosen) q' a
  | cancelled {i : Nat} {request : SelectionRequest} :
      q.status = .awaiting i request → request.cancelable = true →
      Answers q .cancel { q with status := .aborted "cancelled", state := q.initial }
        (.cancelled q.initial)
  | kept {i : Nat} {request : SelectionRequest} :
      q.status = .awaiting i request → request.cancelable = false →
      Answers q .cancel q (.rejected (.notCancelable request.summary) request)

/-- **A call that returns does one of the six things.** -/
theorem answers_of_call {fuel : Nat} {q q' : Sequencer} {c : SequencerCall} {a : SequencerAnswer}
    (h : q.call fuel c = .ok (some (q', a))) : q.Answers c q' a := by
  cases c with
  | start =>
    simp only [call, start] at h
    split at h
    · rename_i hstatus
      obtain ⟨q₁, hwalk, hlast⟩ := exists_walk_of_run (Except.ok.inj h)
      exact .started hstatus hwalk hlast
    · cases h
  | provide chosen =>
    simp only [call, provide] at h
    split at h
    · rename_i i request step hstatus hstep
      split at h
      · rename_i refusal hvalidate
        cases h
        exact .rejected hstatus hstep hvalidate
      · rename_i hvalidate
        cases hrun : step.run q.state chosen with
        | error refusal =>
          simp only [execute, hrun] at h
          cases h
          exact .failed hstatus hstep hvalidate hrun
        | ok out =>
          simp only [execute, hrun] at h
          obtain ⟨q₁, hwalk, hlast⟩ := exists_walk_of_run (Except.ok.inj h)
          exact .resumed hstatus hstep hvalidate hrun hwalk hlast
    · cases h
  | cancel =>
    simp only [call, cancel] at h
    split at h
    · rename_i i request hstatus
      split at h
      · rename_i hcancelable
        cases h
        exact .cancelled hstatus hcancelable
      · rename_i hcancelable
        cases h
        exact .kept hstatus (Bool.eq_false_iff.mpr hcancelable)
    · cases h

/-- A call that is noted was a fault, which changes nothing, or did one of the six things. -/
theorem answers_of_answer {fuel : Nat} {q q' : Sequencer} {c : SequencerCall} {result : CallResult}
    (h : q.answer fuel c = some (q', result)) :
    (∃ fault, result = .error fault ∧ q' = q) ∨ ∃ a, result = .ok a ∧ q.Answers c q' a := by
  unfold answer at h
  split at h
  · rename_i fault hcall
    cases h
    exact .inl ⟨fault, rfl, rfl⟩
  · cases h
  · rename_i q₁ a hcall
    cases h
    exact .inr ⟨a, rfl, answers_of_call hcall⟩

/-! ## What calls keep -/

section Preserves

variable {P : Sequencer → Prop} {q q' : Sequencer} {a : SequencerAnswer}
  (hstatus : ∀ {q : Sequencer} (status : SequencerStatus), P q → P { q with status := status })

include hstatus

theorem Visit.preserves (h : q.Visit q' (some a)) (hq : P q) : P q' := by
  cases h <;> exact hstatus _ hq

variable (haccept : ∀ {q : Sequencer} {step : Step} {chosen : List InstanceId} {out : Outcome},
    P q → q.steps[q.cursor]? = some step → step.run q.state chosen = .ok out → P (q.accept out))

include haccept

theorem Walk.preserves (h : Walk q q') (hq : P q) : P q' := by
  induction h with
  | stop => exact hq
  | past hstep _ hrun _ ih => exact ih (haccept (hstatus _ hq) hstep hrun)

/-- **What every step keeps, a call keeps**, if it does not depend on the status and, where the call
cancels the run, holds at the start of the run again. -/
theorem Answers.preserves {c : SequencerCall} (h : q.Answers c q' a) (hq : P q)
    (hcancel : a = .cancelled q.initial → P { q with state := q.initial }) : P q' := by
  cases h with
  | started _ hwalk hlast => exact hlast.preserves hstatus (hwalk.preserves hstatus haccept hq)
  | rejected => exact hq
  | failed => exact hstatus _ hq
  | resumed _ hstep _ hrun hwalk hlast =>
    have hresumed := haccept (hstatus (.running q.cursor) hq) hstep hrun
    exact hlast.preserves hstatus (hwalk.preserves hstatus haccept hresumed)
  | cancelled => exact hstatus _ (hcancel rfl)
  | kept => exact hq

end Preserves

end Sequencer

end SoloDuel
