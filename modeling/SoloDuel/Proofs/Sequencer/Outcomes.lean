import SoloDuel.Proofs.Engine.Steps
import SoloDuel.Proofs.Sequencer.Worklist
/-!
# What a complete run leaves behind

What is true of the last snapshot of a run, if it gets that far, can be said step by step, without a
sequencer. The player may choose as the steps ask, and steps may be refused: a run that fails, is
cancelled or still waits has nothing to show.

* `Ensures` — what a list of steps leaves behind if it runs to its end.
* `Step.Unheard` — a step whose events triggers do not answer.
* `Ensures.quietly`, `Ensures.keeping` — one step, and several steps that keep a property, each with
  the rest of the run as the last hypothesis.
* `Ensures.activation` — a whole activation, given how the source comes into play.
* `Sequencer.of_play_of_ensures` — what any series of calls that completes the run leaves behind.
-/

namespace SoloDuel

/-- Whatever is chosen, steps that run to their end from a snapshot leave one with property `Q`. The
steps with which triggers answer the events of a step come directly behind it. -/
inductive Ensures (collector : Collector) (Q : Snapshot → Prop) : Snapshot → List Step → Prop
  | done {s : Snapshot} : Q s → Ensures collector Q s []
  | step {s : Snapshot} {step : Step} {rest : List Step} :
      (∀ chosen out, step.run s chosen = .ok out →
        Ensures collector Q out.state (out.events.flatMap (collector out.state) ++ rest)) →
      Ensures collector Q s (step :: rest)

/-- Triggers do not answer what the step reports. -/
def Step.Unheard (step : Step) (collector : Collector) : Prop :=
  ∀ s chosen out, step.run s chosen = .ok out → out.events.flatMap (collector out.state) = []

namespace Ensures

variable {collector : Collector} {P Q : Snapshot → Prop} {s : Snapshot} {step : Step}
  {steps rest : List Step}

/-- A step that triggers do not answer. -/
theorem quietly (hquiet : step.Unheard collector)
    (hrest : ∀ chosen out, step.run s chosen = .ok out → Ensures collector Q out.state rest) :
    Ensures collector Q s (step :: rest) := by
  refine .step fun chosen out hrun => ?_
  rw [hquiet s chosen out hrun]
  exact hrest chosen out hrun

/-- Steps that keep a property and that triggers do not answer. -/
theorem keeping (hkeeps : ∀ step ∈ steps, step.Respects fun s t => P s → P t)
    (hquiet : ∀ step ∈ steps, step.Unheard collector) (hs : P s)
    (hrest : ∀ t, P t → Ensures collector Q t rest) :
    Ensures collector Q s (steps ++ rest) := by
  induction steps generalizing s with
  | nil => exact hrest s hs
  | cons step steps ih =>
    rw [List.forall_mem_cons] at hkeeps hquiet
    refine quietly hquiet.1 fun chosen out hrun => ?_
    exact ih hkeeps.2 hquiet.2 (hkeeps.1 s chosen out hrun hs)

/-- An activation: once the source is in play, triggers answer that it was activated and the effect
does what it does. -/
theorem activation {effect : CardEffect} {source : InstanceId} {card : CardInstance} {u : Snapshot}
    {message : Option String} (hfind : s.find? source = some card)
    (hactivate : (effect.template.activate card.name source effect.id effect.once).run s [] =
      .ok { state := u, message := message })
    (hrest : Ensures collector Q u
      (collector u (effect.template.event effect.id source) ++ effect.resolutionSteps s source)) :
    Ensures collector Q s (effect.steps s source) := by
  rw [effect.steps_eq hfind]
  refine .step fun chosen out hrun => ?_
  -- The first step reads no choice.
  obtain rfl : out = { state := u, message := message } :=
    Except.ok.inj (hrun.symm.trans hactivate)
  refine .step fun chosen out hnotify => ?_
  cases hnotify
  refine .step fun chosen out hannounce => ?_
  cases hannounce
  rw [List.flatMap_singleton]
  exact hrest

end Ensures

/-! ## Sequencers -/

namespace Sequencer

variable {Q : Snapshot → Prop} {q q' : Sequencer} {c : SequencerCall} {a : SequencerAnswer}

/-- The steps that are still to be run leave a snapshot with property `Q` if they get to their
end. -/
def Promises (Q : Snapshot → Prop) (q : Sequencer) : Prop :=
  Ensures q.collector Q q.state (q.steps.drop q.cursor)

theorem Promises.accept (h : q.Promises Q) {step : Step} {chosen : List InstanceId} {out : Outcome}
    (hstep : q.steps[q.cursor]? = some step) (hrun : step.run q.state chosen = .ok out) :
    (q.accept out).Promises Q := by
  unfold Promises at h ⊢
  rw [drop_cursor_of_some hstep] at h
  rw [drop_cursor_accept hstep]
  cases h with
  | step hnext => exact hnext chosen out hrun

theorem Answers.promises (h : q.Answers c q' a) (hcancel : a ≠ .cancelled q.initial)
    (hq : q.Promises Q) : q'.Promises Q :=
  h.preserves (fun _ hq => hq) (fun hq hstep hrun => hq.accept hstep hrun) hq
    fun ha => absurd ha hcancel

/-- A run that was given up answers nothing any more. -/
theorem Answers.not_aborted (h : q.Answers c q' a) (reason : String) :
    q.status ≠ .aborted reason := by
  intro hstatus
  cases h <;> simp_all

/-- **What the steps leave behind is there when the run is complete**, whatever calls were made. -/
theorem of_play_of_ensures {collector : Collector} {s : Snapshot} {steps : List Step} {fuel : Nat}
    {calls : List SequencerCall} {log : CallLog} (h : Ensures collector Q s steps)
    (hplay : (new s steps collector).play fuel calls = some (q, log))
    (hcomplete : q.status = .complete) : Q q.state := by
  have hstart : (new s steps collector).Promises Q := h
  have hpromises : (∃ reason, q.status = .aborted reason) ∨ q.Promises Q := by
    refine play_induction (P := fun r => (∃ reason, r.status = .aborted reason) ∨ r.Promises Q)
      ?_ (.inr hstart) hplay
    intro r r' c result hr hanswer
    rcases answers_of_answer hanswer with ⟨fault, -, rfl⟩ | ⟨a, -, hanswers⟩
    · exact hr
    · rcases hr with ⟨reason, hreason⟩ | hr
      · exact absurd hreason (hanswers.not_aborted reason)
      · by_cases hcancel : a = .cancelled r.initial
        · subst hcancel
          cases hanswers with
          | cancelled => exact .inl ⟨_, rfl⟩
          | started _ _ hlast => cases hlast
          | resumed _ _ _ _ _ hlast => cases hlast
        · exact .inr (hanswers.promises hcancel hr)
  rcases hpromises with ⟨reason, hreason⟩ | hpromises
  · rw [hcomplete] at hreason
    cases hreason
  · have hend : q.cursor = q.steps.length := (consistent_of_play hplay).1.complete hcomplete
    unfold Promises at hpromises
    rw [hend, List.drop_length] at hpromises
    cases hpromises with
    | done hQ => exact hQ

end Sequencer

end SoloDuel
