import SoloDuel.Proofs.Sequencer.Prompts
import SoloDuel.Proofs.Sequencer.Termination
/-!
# The prompt and the validator

What the player may choose is said twice. The request is worked out when the run is suspended, shown
to the player and kept with the status; whether an answer is one is worked out from the snapshot
when the answer comes. The two agree, as nothing that can be called while a step waits changes the
snapshot or the step: an answer that is refused and a cancelling that is refused leave all as it is.

* `SelectionRequest.Allows` — what the prompt says an answer is.
* `Sequencer.Accepts` — the sequencer has an answer to chosen cards that does not refuse them.
* `Step.validate_eq_ok_iff` — on one snapshot a step accepts what its prompt allows.
* `Sequencer.provide_agrees` — the same between any two calls.
-/

namespace SoloDuel

/-- Chosen cards are as many as asked for, different, and among the candidates shown. -/
def SelectionRequest.Allows (request : SelectionRequest) (chosen : List InstanceId) : Prop :=
  request.min.toNat ≤ chosen.length ∧ chosen.length ≤ request.max.toNat ∧ chosen.Nodup ∧
    ∀ id ∈ chosen, id ∈ request.candidates

instance (request : SelectionRequest) (chosen : List InstanceId) :
    Decidable (request.Allows chosen) :=
  inferInstanceAs (Decidable (_ ∧ _))

/-- Whether an answer says that the call was refused. -/
def SequencerAnswer.isRejected : SequencerAnswer → Bool
  | .rejected .. => true
  | _ => false

namespace Step

variable {step : Step} {s : Snapshot} {request : SelectionRequest} {chosen : List InstanceId}

/-- On the snapshot the request was worked out on, a step accepts what its prompt allows. -/
theorem validate_eq_ok_iff (h : step.request s = some request) :
    step.validate s chosen = .ok () ↔ request.Allows chosen := by
  rw [Step.request, if_pos (isInteractive_of_request h)] at h
  cases hselection : step.selection with
  | some selection =>
    rw [hselection] at h
    cases h
    simp only [validate, hselection]
    exact CardSelection.validate_eq_ok_iff
  | none =>
    -- without a selection the prompt allows the empty answer alone
    rw [hselection] at h
    cases h
    simp only [validate, hselection]
    cases chosen with
    | nil =>
      exact iff_of_true rfl
        ⟨Nat.zero_le _, Nat.zero_le _, List.nodup_nil, fun _ hid => absurd hid List.not_mem_nil⟩
    | cons id rest =>
      refine iff_of_false (by rintro ⟨⟩) ?_
      rintro ⟨-, hmax, -⟩
      exact absurd hmax (Nat.not_succ_le_zero _)

/-- Cards that are no answer to a step are refused for being none. -/
theorem code_of_validate {refusal : Refusal} (h : step.validate s chosen = .error refusal) :
    refusal.code = .invalidSelection := by
  unfold validate at h
  split at h
  · exact CardSelection.code_of_validate h
  · split at h
    · cases h
    · cases h
      rfl

end Step

namespace Sequencer

variable {s : Snapshot} {q q' : Sequencer} {i : Nat} {request : SelectionRequest}
  {chosen : List InstanceId}

/-- The sequencer has an answer to chosen cards, and the answer does not refuse them. -/
def Accepts (q : Sequencer) (chosen : List InstanceId) : Prop :=
  ∃ fuel q' a, q.provide fuel chosen = .ok (some (q', a)) ∧ a.isRejected = false

/-- A consistent sequencer takes what the prompt it shows allows. -/
theorem Consistent.takes_iff (hc : q.Consistent) (hstatus : q.status = .awaiting i request) :
    q.Takes chosen ↔ request.Allows chosen := by
  obtain ⟨step, hstep, hrequest⟩ := hc.exists_step hstatus
  rw [← Step.validate_eq_ok_iff hrequest]
  exact ⟨validate_of_takes hstatus hstep, takes_of_validate hc hstatus hstep⟩

/-- What the prompt does not allow is refused at once. -/
theorem Consistent.provide_eq_rejected (hc : q.Consistent)
    (hstatus : q.status = .awaiting i request) (h : ¬ request.Allows chosen) :
    ∃ refusal, ∀ fuel, q.provide fuel chosen = .ok (some (q, .rejected refusal request)) := by
  obtain ⟨step, hstep, hrequest⟩ := hc.exists_step hstatus
  rw [← Step.validate_eq_ok_iff hrequest] at h
  cases hvalid : step.validate q.state chosen with
  | ok => exact absurd hvalid h
  | error refusal => exact ⟨refusal, fun fuel => by simp only [provide, hstatus, hstep, hvalid]⟩

/-- Choosing cards is refused only for their being no answer, and the same is asked as before. -/
theorem rejected_of_provide {fuel : Nat} {refusal : Refusal} {request' : SelectionRequest}
    (hstatus : q.status = .awaiting i request)
    (h : q.provide fuel chosen = .ok (some (q', .rejected refusal request'))) :
    refusal.code = .invalidSelection ∧ request' = request ∧ q' = q := by
  have hanswers : q.Answers (.provide chosen) q' (.rejected refusal request') :=
    answers_of_call h
  cases hanswers with
  | rejected hstatus' _ hinvalid =>
    rw [hstatus] at hstatus'
    cases hstatus'
    exact ⟨Step.code_of_validate hinvalid, rfl, rfl⟩
  | resumed _ _ _ _ _ hlast => cases hlast

/-- An answer that does not refuse the chosen cards was allowed by the prompt. -/
theorem Consistent.allows_of_accepts (hc : q.Consistent)
    (hstatus : q.status = .awaiting i request) (h : q.Accepts chosen) :
    request.Allows chosen := by
  obtain ⟨fuel, q', a, hanswer, haccepted⟩ := h
  by_contra hnot
  obtain ⟨refusal, hrejected⟩ := hc.provide_eq_rejected hstatus hnot
  rw [hrejected fuel] at hanswer
  cases hanswer
  cases haccepted

/-- With settled triggers the sequencer comes back with an answer to whatever it takes. -/
theorem Takes.accepts (h : q.Takes chosen) (hsettled : q.collector.Settled) :
    q.Accepts chosen := by
  rcases returns_of_settled hsettled (.provide chosen) with ⟨fault, hfault⟩ | ⟨record, q', a, hret⟩
  · obtain ⟨r, hr, -⟩ := h 0
    have hcall : q.provide 0 chosen = .error fault := hfault 0
    rw [hcall] at hr
    cases hr
  · have hcall : q.provide (q.budget record + 1) chosen = .ok (some (q', a)) :=
      hret.returns _ (Nat.lt_succ_self _)
    obtain ⟨r, hr, hne⟩ := h (q.budget record + 1)
    refine ⟨_, q', a, hcall, ?_⟩
    rw [hcall] at hr
    cases hr
    cases a with
    | rejected refusal request => exact absurd rfl (hne q' refusal request)
    | _ => rfl

/-- **The prompt and the validator agree.** Whatever the steps and the triggers are and whatever
calls were made, while a sequencer waits it takes chosen cards exactly when the request it shows
allows them: they are as many as asked for, different, and among its candidates. Where triggers are
settled, so that every call comes back, these are the choices with an answer that does not refuse
them. Any other choice is refused at once. A refusal says that the choice is no answer and asks the
same again, and nothing has changed. -/
theorem provide_agrees {steps : List Step} {collector : Collector} {fuel : Nat}
    {calls : List SequencerCall} {log : CallLog}
    (hplay : (new s steps collector).play fuel calls = some (q, log))
    (hstatus : q.status = .awaiting i request) (chosen : List InstanceId) :
    (q.Takes chosen ↔ request.Allows chosen) ∧
      (collector.Settled → (q.Accepts chosen ↔ request.Allows chosen)) ∧
      (¬ request.Allows chosen → ∃ refusal, ∀ fuel,
        q.provide fuel chosen = .ok (some (q, .rejected refusal request))) ∧
      ∀ fuel q' refusal request',
        q.provide fuel chosen = .ok (some (q', .rejected refusal request')) →
          refusal.code = .invalidSelection ∧ request' = request ∧ q' = q := by
  have hc := (consistent_of_play hplay).1
  refine ⟨hc.takes_iff hstatus, fun hsettled => ⟨hc.allows_of_accepts hstatus, fun hallows => ?_⟩,
    hc.provide_eq_rejected hstatus, fun _ _ _ _ => rejected_of_provide hstatus⟩
  have hcollector : q.collector = collector := collector_of_play hplay
  exact ((hc.takes_iff hstatus).mpr hallows).accepts (hcollector ▸ hsettled)

/-- A discard that still waits after a wrong answer and a refused cancelling takes the one card of
the hand. -/
theorem provide_agrees_of_one_card : ∃ q log request,
    (new oneCard [.discard 1] .silent).play 2 [.start, .provide [⟨7⟩], .cancel] = some (q, log) ∧
      q.status = .awaiting 0 request ∧ Collector.silent.Settled ∧ request.Allows [⟨1⟩] ∧
      q.Accepts [⟨1⟩] ∧ ¬ q.Accepts [⟨7⟩] := by
  have h : (new oneCard [.discard 1] .silent).play 2 [.start, .provide [⟨7⟩], .cancel] =
      some (_, _) := rfl
  obtain ⟨-, hone, -⟩ := provide_agrees h rfl [⟨1⟩]
  obtain ⟨-, hseven, -⟩ := provide_agrees h rfl [⟨7⟩]
  refine ⟨_, _, _, h, rfl, Collector.silent_settled, ?_, ?_, ?_⟩
  · decide
  · rw [hone Collector.silent_settled]
    decide
  · rw [hseven Collector.silent_settled]
    decide

end Sequencer

end SoloDuel
