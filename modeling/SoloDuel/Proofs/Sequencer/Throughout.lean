import SoloDuel.Proofs.Sequencer.Outcomes
/-!
# What holds all through a run

`Ensures` says what a run that gets to its end leaves behind. What every step of a run keeps to,
whether or not the run gets to its end, can be said in the same way: step by step, without a
sequencer, and with the choices left to the player.

* `Throughout` — every step that runs, those with which triggers answer included, keeps to a
  condition on the snapshot before it and its outcome.
* `Throughout.keeping`, `Throughout.activation` — several steps that keep a property, and a whole
  activation.
* `Sequencer.Guarded`, `Guarded.advances` — a sequencer whose steps keep to a condition goes on to
  keep to it.
-/

namespace SoloDuel

/-- Whatever is chosen, every step that runs keeps to condition `P` on the snapshot before it and
its outcome. The steps with which triggers answer the events of a step come directly behind it. -/
inductive Throughout (collector : Collector) (P : Snapshot → Outcome → Prop) :
    Snapshot → List Step → Prop
  | done {s : Snapshot} : Throughout collector P s []
  | step {s : Snapshot} {step : Step} {rest : List Step} :
      (∀ chosen out, step.run s chosen = .ok out → P s out) →
      (∀ chosen out, step.run s chosen = .ok out → Throughout collector P out.state
        (out.events.flatMap (collector out.state) ++ rest)) →
      Throughout collector P s (step :: rest)

namespace Throughout

variable {collector : Collector} {P : Snapshot → Outcome → Prop} {J : Snapshot → Prop}
  {s : Snapshot} {steps rest : List Step}

/-- Steps that keep a property, and with it to the condition, and that triggers do not answer. -/
theorem keeping (hkeeps : ∀ step ∈ steps, ∀ t chosen out, J t → step.run t chosen = .ok out →
      P t out ∧ J out.state)
    (hquiet : ∀ step ∈ steps, step.Unheard collector) (hs : J s)
    (hrest : ∀ t, J t → Throughout collector P t rest) :
    Throughout collector P s (steps ++ rest) := by
  induction steps generalizing s with
  | nil => exact hrest s hs
  | cons step steps ih =>
    rw [List.forall_mem_cons] at hkeeps hquiet
    obtain ⟨hstep, hsteps⟩ := hkeeps
    refine .step (fun chosen out hrun => (hstep s chosen out hs hrun).1) fun chosen out hrun => ?_
    rw [hquiet.1 s chosen out hrun]
    exact ih hsteps hquiet.2 (hstep s chosen out hs hrun).2

/-- Such steps and nothing else. -/
theorem of_keeping (hkeeps : ∀ step ∈ steps, ∀ t chosen out, J t → step.run t chosen = .ok out →
      P t out ∧ J out.state)
    (hquiet : ∀ step ∈ steps, step.Unheard collector) (hs : J s) :
    Throughout collector P s steps := by
  rw [← List.append_nil steps]
  exact keeping hkeeps hquiet hs fun _ _ => .done

/-- An activation: the source comes into play, the player is told, and the activation is announced;
then triggers answer and the effect does what it does. -/
theorem activation {effect : CardEffect} {source : InstanceId} {card : CardInstance} {u : Snapshot}
    {message : Option String} (hfind : s.find? source = some card)
    (hactivate : (effect.template.activate card.name source effect.id effect.once).run s [] =
      .ok { state := u, message := message })
    (hentered : P s { state := u, message := message })
    (htold : ∀ told, P u { state := u, message := told })
    (hannounced : P u { state := u, events := [effect.template.event effect.id source] })
    (hrest : Throughout collector P u
      (collector u (effect.template.event effect.id source) ++ effect.resolutionSteps s source)) :
    Throughout collector P s (effect.steps s source) := by
  -- The first step reads no choice.
  have hfirst : ∀ chosen out,
      (effect.template.activate card.name source effect.id effect.once).run s chosen = .ok out →
        out = { state := u, message := message } := fun chosen out hrun =>
    Except.ok.inj (hrun.symm.trans hactivate)
  rw [effect.steps_eq hfind]
  refine .step (fun chosen out hrun => hfirst chosen out hrun ▸ hentered) fun chosen out hrun => ?_
  obtain rfl := hfirst chosen out hrun
  refine .step (fun chosen out hnotify => ?_) fun chosen out hnotify => ?_
  · cases hnotify
    exact htold _
  cases hnotify
  refine .step (fun chosen out hannounce => ?_) fun chosen out hannounce => ?_
  · cases hannounce
    exact hannounced
  cases hannounce
  rw [List.flatMap_singleton]
  exact hrest

end Throughout

/-! ## Sequencers -/

namespace Sequencer

variable {P : Snapshot → Outcome → Prop} {q q' : Sequencer}

/-- The steps that are still to be run keep to a condition. -/
def Guarded (P : Snapshot → Outcome → Prop) (q : Sequencer) : Prop :=
  Throughout q.collector P q.state (q.steps.drop q.cursor)

/-- A sequencer that has not begun. -/
theorem guarded_new {collector : Collector} {s : Snapshot} {steps : List Step}
    (h : Throughout collector P s steps) : (new s steps collector).Guarded P := h

/-- The step at the cursor keeps to the condition. -/
theorem Guarded.holds (h : q.Guarded P) {step : Step} {chosen : List InstanceId} {out : Outcome}
    (hstep : q.steps[q.cursor]? = some step) (hrun : step.run q.state chosen = .ok out) :
    P q.state out := by
  unfold Guarded at h
  rw [drop_cursor_of_some hstep] at h
  cases h with
  | step hnow _ => exact hnow chosen out hrun

/-- **A guarded sequencer stays guarded.** -/
theorem Guarded.advances (h : q.Guarded P) (hadvances : q.Advances q') : q'.Guarded P := by
  cases hadvances with
  | paused => exact h
  | ran status hstep hrun =>
    unfold Guarded at h ⊢
    rw [drop_cursor_of_some hstep] at h
    rw [drop_cursor_accept (q := { q with status := status }) hstep]
    cases h with
    | step _ hnext => exact hnext _ _ hrun

end Sequencer

end SoloDuel
