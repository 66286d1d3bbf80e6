import SoloDuel.Proofs.Engine.History
/-!
# Activations that cannot be cancelled

A step may let the player cancel instead of choosing. None of the steps that effects are made of
does, and none with which the triggers of the library answer. An activation of the library or of a
script is thus played out or given up, but never taken back.

* `Step.Binding`, `Sequencer.Binding` — steps and runs that cannot be cancelled.
* `Engine.Stocked.binding` — the activations of an engine with the library and scripts are such.
* `Engine.Does.binding`, `Engine.Run.binding` — in a duel with such an engine nothing is cancelled.
-/

namespace SoloDuel

/-- Whatever the step asks for, it does not let the player cancel. -/
def Step.Binding (step : Step) : Prop :=
  ∀ s request, step.request s = some request → request.cancelable = false

/-- No step asks the player for anything that may be cancelled. -/
theorem Step.Prebuilt.binding {step : Step} (h : step.Prebuilt) : step.Binding := by
  intro s request hrequest
  cases h <;> cases hrequest <;> rfl

namespace Sequencer

variable {q : Sequencer}

/-- Neither a step of the run nor one that triggers answer with can be cancelled, and what the run
waits for cannot. -/
structure Binding (q : Sequencer) : Prop where
  steps : ∀ step ∈ q.steps, step.Binding
  collector : ∀ s event, ∀ step ∈ q.collector s event, step.Binding
  awaiting : ∀ i request, q.status = .awaiting i request → request.cancelable = false

theorem Binding.withStatus (h : q.Binding) {status : SequencerStatus}
    (hstatus : ∀ i request, status ≠ .awaiting i request) :
    ({ q with status := status } : Sequencer).Binding :=
  ⟨h.steps, h.collector, fun i request hawaiting => absurd hawaiting (hstatus i request)⟩

theorem Binding.accept (h : q.Binding) (out : Outcome) : (q.accept out).Binding where
  steps := by
    intro step hstep
    rcases mem_steps_accept hstep with hmem | ⟨event, -, hmem⟩
    · exact h.steps step hmem
    · exact h.collector out.state event step hmem
  collector := h.collector
  awaiting := h.awaiting

theorem Binding.visit (h : q.Binding) : q.visit.1.Binding := by
  have hvisit := q.visit_spec
  generalize q.visit = r at hvisit
  obtain ⟨q', b⟩ := r
  cases hvisit with
  | ended | short | refused => exact h.withStatus (by rintro i request ⟨⟩)
  | asked hstep hrequest =>
    refine ⟨h.steps, h.collector, fun i request hawaiting => ?_⟩
    cases hawaiting
    exact h.steps _ (List.mem_of_getElem? hstep) q.state _ hrequest
  | ran => exact (h.withStatus (by rintro i request ⟨⟩)).accept _

theorem Binding.execute (h : q.Binding) (step : Step) (chosen : List InstanceId) :
    (q.execute step chosen).1.Binding := by
  unfold Sequencer.execute
  split
  · exact h.accept _
  · exact h.withStatus (by rintro i request ⟨⟩)

/-- Such a run is never cancelled. -/
theorem Binding.cancel_ne (h : q.Binding) {q' : Sequencer} {t : Snapshot} :
    q.cancel ≠ .ok (q', .cancelled t) := by
  intro hcancel
  unfold cancel at hcancel
  split at hcancel
  · rename_i i request hstatus
    rw [h.awaiting i request hstatus] at hcancel
    cases hcancel
  · cases hcancel

end Sequencer

/-- In the middle of an activation, it cannot be cancelled. -/
def Moment.Binding : Moment → Prop
  | between _ => True
  | during q => q.Binding

namespace Engine

variable {e : Engine} {scripts : Script → Prop} {s : Snapshot} {m m' : Moment} {d : Deed}
  {history : List Entry}

/-- The activations of an engine with the library and scripts cannot be cancelled. -/
theorem Stocked.binding (he : e.Stocked scripts) {source : InstanceId} {category : EffectCategory}
    {q : Sequencer} (h : e.activate s source category = .ok (.ready q)) : q.Binding := by
  obtain ⟨card, effect, hfind, hget, -, rfl⟩ := exists_effect_of_activate h
  refine ⟨?_, fun s event step hstep => ?_, by rintro i request ⟨⟩⟩
  · change ∀ step ∈ effect.steps s source, step.Binding
    rw [effect.steps_eq hfind, List.forall_mem_cons, List.forall_mem_cons, List.forall_mem_cons]
    have hresolution : ∀ step ∈ effect.resolutionSteps s source, step.Prebuilt :=
      CardEffect.resolutionSteps_prebuilt (he.prebuilt_effect (Registry.mem_values_of_get hget))
    refine ⟨?_, ?_, ?_, fun step hstep => (hresolution step hstep).binding⟩ <;>
      rintro t request ⟨⟩
  · obtain ⟨id, limit, rfl⟩ := he.exists_eq_addCounters_of_mem_collect hstep
    exact (Step.Prebuilt.addCounters id .spell 1 limit).binding

/-- **In the middle of an activation that cannot be cancelled nothing is**, and it stays so. -/
theorem Does.binding (he : e.Stocked scripts) (h : e.Does m d m') (hm : m.Binding) :
    m'.Binding ∧ d ≠ .cancel := by
  cases h with
  | command | refusedCommand | refusedActivation | leave => exact ⟨trivial, by rintro ⟨⟩⟩
  | activate hready => exact ⟨he.binding hready, by rintro ⟨⟩⟩
  | visit => exact ⟨Sequencer.Binding.visit hm, by rintro ⟨⟩⟩
  | @choose q i request step chosen =>
    have hrunning : ({ q with status := .running q.cursor } : Sequencer).Binding :=
      Sequencer.Binding.withStatus hm (by rintro i request ⟨⟩)
    exact ⟨hrunning.execute step chosen, by rintro ⟨⟩⟩
  | cancel hcancel => exact absurd hcancel (Sequencer.Binding.cancel_ne hm)

theorem Run.binding (he : e.Stocked scripts) (h : e.Run s history m) : m.Binding := by
  induction h with
  | start => trivial
  | does _ hdoes ih => exact (hdoes.binding he ih).1

end Engine

end SoloDuel
