import SoloDuel.Proofs.Sequencer.Replay
/-!
# Runs that complete

Whether a list of steps runs to its end on a snapshot, whatever the player chooses where a step
asks, can be said step by step, without a sequencer. A sequencer with such steps never fails.

* `Completes` — a list of steps runs to its end, with bounds on the selections and on the steps.
* `Worklist.Poised` — what is true of a run of such steps between two calls.
* `Sequencer.play_of_completes` — what any series of calls makes of such a run.
-/

namespace SoloDuel

/-- On a snapshot, steps run to their end and leave a snapshot with property `Q`, whatever is
chosen: no step is refused, each that asks can be answered and cannot be cancelled, at most `n` of
them ask, and fewer than `m` run. -/
inductive Completes (collector : Collector) (Q : Snapshot → Prop) :
    (n m : Nat) → Snapshot → List Step → Prop
  | done {n m : Nat} {s : Snapshot} : Q s → Completes collector Q n (m + 1) s []
  | run {n m : Nat} {s : Snapshot} {step : Step} {rest : List Step} {out : Outcome} :
      step.request s = none → step.run s [] = .ok out →
      Completes collector Q n m out.state (out.events.flatMap (collector out.state) ++ rest) →
      Completes collector Q n (m + 1) s (step :: rest)
  | ask {n m : Nat} {s : Snapshot} {step : Step} {rest : List Step} {request : SelectionRequest} :
      step.request s = some request → request.min.toNat ≤ request.candidates.length →
      request.cancelable = false → (∃ chosen, step.validate s chosen = .ok ()) →
      (∀ chosen, step.validate s chosen = .ok () → ∃ out, step.run s chosen = .ok out) →
      (∀ chosen out, step.validate s chosen = .ok () → step.run s chosen = .ok out →
        Completes collector Q n m out.state (out.events.flatMap (collector out.state) ++ rest)) →
      Completes collector Q (n + 1) (m + 1) s (step :: rest)

/-- Whether an answer says that the run failed. -/
def SequencerAnswer.isFailed : SequencerAnswer → Bool
  | .failed .. => true
  | _ => false

variable {collector : Collector} {Q : Snapshot → Prop} {n m fuel : Nat}

/-- More steps may run than do. -/
theorem Completes.succ {s : Snapshot} {steps : List Step} (h : Completes collector Q n m s steps) :
    Completes collector Q n (m + 1) s steps := by
  induction h with
  | done hQ => exact .done hQ
  | run hrequest hrun _ ih => exact .run hrequest hrun ih
  | ask hrequest hmin hcancel hanswer hrun _ ih => exact .ask hrequest hmin hcancel hanswer hrun ih

namespace Worklist

variable {w : Worklist}

/-- Where a run of completing steps is between two calls: at its end, or waiting for an answer after
which it goes on to its end. -/
inductive Poised (Q : Snapshot → Prop) (n m : Nat) (w : Worklist) : Prop
  | completed : w.stage = .complete → Q w.state → Poised Q n m w
  | waiting {k : Nat} {step : Step} {rest : List Step} {request : SelectionRequest} :
      n = k + 1 → w.stage = .awaiting request → w.pending = step :: rest →
      request.cancelable = false → (∃ chosen, step.validate w.state chosen = .ok ()) →
      (∀ chosen, step.validate w.state chosen = .ok () → ∃ out, step.run w.state chosen = .ok out) →
      (∀ chosen out, step.validate w.state chosen = .ok () → step.run w.state chosen = .ok out →
        Completes w.collector Q k m out.state
          (out.events.flatMap (w.collector out.state) ++ rest)) →
      Poised Q n m w

theorem Poised.succ (h : w.Poised Q n m) : w.Poised Q n (m + 1) := by
  cases h with
  | completed hstage hQ => exact .completed hstage hQ
  | waiting hn hstage hpending hcancel hanswer hrun hrest =>
    exact .waiting hn hstage hpending hcancel hanswer hrun
      fun chosen out hvalid hout => (hrest chosen out hvalid hout).succ

/-- A run of completing steps ends or waits. It does not fail. -/
theorem run_of_completes {s : Snapshot} {steps : List Step} (h : Completes collector Q n m s steps)
    (hfuel : m ≤ fuel) (hcollector : w.collector = collector) (hstate : w.state = s)
    (hpending : w.pending = steps) :
    ∃ w' a, w.run fuel = some (w', a) ∧ a.isFailed = false ∧ w'.Poised Q n m := by
  induction h generalizing w fuel with
  | done hQ =>
    obtain ⟨fuel, rfl⟩ := Nat.exists_eq_add_of_lt hfuel
    subst hstate
    refine ⟨{ w with stage := .complete }, .completed w.state, ?_, rfl, .completed rfl hQ⟩
    simp [run, visit, hpending]
  | @run n m s step rest out hrequest hrun _ ih =>
    obtain ⟨fuel, rfl⟩ := Nat.exists_eq_add_of_lt hfuel
    subst hstate hcollector
    obtain ⟨w', a, hrun', hfailed, hpoised⟩ :=
      ih (w := w.advance step rest out) (Nat.le_add_right m fuel) rfl rfl rfl
    refine ⟨w', a, ?_, hfailed, hpoised.succ⟩
    rw [← hrun']
    simp [run, visit, hpending, hrequest, execute, hrun]
  | @ask n m s step rest request hrequest hmin hcancel hanswer hrun hrest _ =>
    obtain ⟨fuel, rfl⟩ := Nat.exists_eq_add_of_lt hfuel
    subst hstate hcollector
    refine ⟨{ w with stage := .awaiting request }, .awaiting request, ?_, rfl,
      .waiting rfl rfl hpending hcancel hanswer hrun
        fun chosen out hvalid hout => (hrest chosen out hvalid hout).succ⟩
    simp [run, visit, hpending, hrequest, Nat.not_lt.mpr hmin]

/-- At most one selection is accepted in an entry of a log. -/
theorem length_acceptedIn_le (entry : SequencerCall × CallResult) :
    (CallLog.acceptedIn entry).toList.length ≤ 1 := by
  cases CallLog.acceptedIn entry with
  | none => exact Nat.zero_le 1
  | some chosen => exact Nat.le_refl 1

/-- What a call makes of such a run: it does not fail, and an accepted selection counts. -/
theorem answer_of_poised (h : w.Poised Q n m) (hfuel : m ≤ fuel) (c : SequencerCall) :
    ∃ w' result k, w.answer fuel c = some (w', result) ∧
      (∀ a, result = .ok a → a.isFailed = false) ∧ w'.Poised Q k m ∧
      k + (CallLog.acceptedIn (c, result)).toList.length ≤ n := by
  cases h with
  | completed hstage hQ =>
    refine ⟨w, .error (.sequencer c.expected), n, ?_, by simp, .completed hstage hQ, ?_⟩
    · cases c <;> simp [answer, call, hstage, SequencerCall.expected]
    · cases c <;> simp [CallLog.acceptedIn]
  | @waiting k step rest request hn hstage hpending hcancel hanswer hrun hrest =>
    have hpoised : w.Poised Q n m :=
      .waiting hn hstage hpending hcancel hanswer hrun hrest
    cases c with
    | start =>
      refine ⟨w, .error (.sequencer .idle), n, ?_, by simp, hpoised, by simp [CallLog.acceptedIn]⟩
      simp [answer, call, hstage]
    | cancel =>
      refine ⟨w, .ok (.rejected (.notCancelable request.summary) request), n, ?_,
        fun a ha => Except.ok.inj ha ▸ rfl, hpoised, by simp [CallLog.acceptedIn]⟩
      simp [answer, call, hstage, hcancel]
    | provide chosen =>
      cases hvalid : step.validate w.state chosen with
      | error refusal =>
        refine ⟨w, .ok (.rejected refusal request), n, ?_, fun a ha => Except.ok.inj ha ▸ rfl,
          hpoised, by simp [CallLog.acceptedIn]⟩
        simp [answer, call, hstage, hpending, hvalid]
      | ok =>
        obtain ⟨out, hout⟩ := hrun chosen hvalid
        obtain ⟨w', a, hrun', hfailed, hpoised'⟩ :=
          run_of_completes (w := w.advance step rest out) (hrest chosen out hvalid hout) hfuel rfl
            rfl rfl
        refine ⟨w', .ok a, k, ?_, fun _ ha => Except.ok.inj ha ▸ hfailed, hpoised', ?_⟩
        · simp [answer, call, hstage, hpending, hvalid, execute, hout, hrun']
        · have haccepted := length_acceptedIn_le (.provide chosen, .ok a)
          omega

theorem accepted_cons (entry : SequencerCall × CallResult) (log : CallLog) :
    (CallLog.accepted (entry :: log)).length =
      (CallLog.acceptedIn entry).toList.length + log.accepted.length := by
  rw [CallLog.accepted, List.filterMap_cons]
  cases CallLog.acceptedIn entry <;> simp [CallLog.accepted, Nat.add_comm]

/-- What a series of calls makes of such a run. -/
theorem play_of_poised (hfuel : m ≤ fuel) (calls : List SequencerCall) (h : w.Poised Q n m) :
    ∃ w' log k, w.play fuel calls = some (w', log) ∧
      (∀ c a, (c, .ok a) ∈ log → a.isFailed = false) ∧ w'.Poised Q k m ∧
      k + log.accepted.length ≤ n := by
  induction calls generalizing w n with
  | nil => exact ⟨w, [], n, rfl, by simp, h, by simp [CallLog.accepted]⟩
  | cons c calls ih =>
    obtain ⟨w₁, result, k₁, hanswer, hfailed₁, hpoised₁, hk₁⟩ := answer_of_poised h hfuel c
    obtain ⟨w', log, k, hplay, hfailed, hpoised, hk⟩ := ih hpoised₁
    refine ⟨w', (c, result) :: log, k,
      playCalls_cons_eq_some.mpr ⟨w₁, result, log, hanswer, hplay, rfl⟩, ?_, hpoised, ?_⟩
    · intro c' a hmem
      rcases List.mem_cons.mp hmem with hmem | hmem
      · cases hmem
        exact hfailed₁ a rfl
      · exact hfailed c' a hmem
    · rw [accepted_cons]
      omega

/-- What a series of calls makes of a run of completing steps from its start on. -/
theorem play_of_completes {s : Snapshot} {steps : List Step}
    (h : Completes collector Q n m s steps) (hfuel : m ≤ fuel) (calls : List SequencerCall) :
    ∃ w log k, (new s steps collector).play fuel (.start :: calls) = some (w, log) ∧
      (∀ c a, (c, .ok a) ∈ log → a.isFailed = false) ∧ w.Poised Q k m ∧
      k + log.accepted.length ≤ n := by
  obtain ⟨w₁, a, hrun, hfailed₁, hpoised₁⟩ :=
    run_of_completes (w := new s steps collector) h hfuel rfl rfl rfl
  obtain ⟨w', log, k, hplay, hfailed, hpoised, hk⟩ := play_of_poised hfuel calls hpoised₁
  have hanswer : (new s steps collector).answer fuel .start = some (w₁, .ok a) := by
    have hcall : (new s steps collector).call fuel .start =
        .ok ((new s steps collector).run fuel) := rfl
    rw [answer, hcall, hrun]
  refine ⟨w', (.start, .ok a) :: log, k,
    playCalls_cons_eq_some.mpr ⟨w₁, .ok a, log, hanswer, hplay, rfl⟩, ?_, hpoised, ?_⟩
  · intro c a' hmem
    rcases List.mem_cons.mp hmem with hmem | hmem
    · cases hmem
      exact hfailed₁
    · exact hfailed c a' hmem
  · rw [accepted_cons]
    simpa [CallLog.acceptedIn] using hk

end Worklist

namespace Sequencer

/-- **A sequencer of completing steps never fails.** Once it has started, and whatever it is called
with, it has accepted at most `n` selections and is complete or waits for another one, which it can
be given. -/
theorem play_of_completes {s : Snapshot} {steps : List Step}
    (h : Completes collector Q n m s steps) (hfuel : m ≤ fuel) (calls : List SequencerCall) :
    ∃ q log, (new s steps collector).play fuel (.start :: calls) = some (q, log) ∧
      (∀ c a, (c, .ok a) ∈ log → a.isFailed = false) ∧
      ((q.status = .complete ∧ log.accepted.length ≤ n ∧ Q q.state) ∨
        (log.accepted.length < n ∧ ∃ i request step chosen, q.status = .awaiting i request ∧
          q.steps[q.cursor]? = some step ∧ step.validate q.state chosen = .ok ())) := by
  obtain ⟨w, log, k, hplay, hfailed, hpoised, hk⟩ := Worklist.play_of_completes h hfuel calls
  have hmap := map_playCalls (toWorklist_answer fuel) (.start :: calls) (new s steps collector)
  have hnew : (new s steps collector).toWorklist = Worklist.new s steps collector := rfl
  rw [hnew, ← Worklist.play, hplay, Option.map_eq_some_iff] at hmap
  obtain ⟨⟨q, log'⟩, hq, heq⟩ := hmap
  obtain ⟨rfl, rfl⟩ : q.toWorklist = w ∧ log' = log := by simpa using heq
  refine ⟨q, log', hq, hfailed, ?_⟩
  cases hpoised with
  | completed hstage hQ =>
    refine .inl ⟨?_, by omega, hQ⟩
    cases hstatus : q.status <;>
      simp [toWorklist, hstatus, SequencerStatus.stage] at hstage ⊢
  | @waiting k step rest request hk' hstage hpending _ hanswer _ _ =>
    obtain ⟨chosen, hvalid⟩ := hanswer
    refine .inr ⟨by omega, ?_⟩
    cases hstatus : q.status with
    | awaiting i request' =>
      refine ⟨i, request', step, chosen, rfl, ?_, hvalid⟩
      have hhead := congrArg List.head? hpending
      simpa [toWorklist, List.head?_drop] using hhead
    | _ => simp [toWorklist, hstatus, SequencerStatus.stage] at hstage

end Sequencer

end SoloDuel
