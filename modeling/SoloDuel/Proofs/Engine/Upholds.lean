import SoloDuel.Proofs.Engine.Binding
import SoloDuel.Proofs.Sequencer.Throughout
/-!
# What a duel upholds

What commands keep, and what every step of an activation keeps to, a duel keeps to from its opening
on. The condition on the steps may speak of the snapshot that the activation began with, so that a
check made there can be used later.

* `Engine.Does.advances` — what is done in the middle of an activation, short of cancelling it.
* `Engine.Upholds`, `Moment.Upholds` — what is asked of an engine, and what it comes to.
* `Engine.Run.upholds` — it holds at every moment of a duel in which nothing can be cancelled.
* `Engine.Does.exists_of_event` — where a reported event comes from.
* `Engine.Run.of_event` — what every reported event was checked for holds of all of them.
-/

namespace SoloDuel

variable {I : Snapshot → Prop} {P : Snapshot → Snapshot → Outcome → Prop}

/-- What the activation has reported so far. -/
def Moment.events : Moment → List Event
  | between _ => []
  | during q => q.events

/-- A property holds of the snapshot at hand. In the middle of an activation it held where that
began, and the steps to come keep to a condition. -/
def Moment.Upholds (I : Snapshot → Prop) (P : Snapshot → Snapshot → Outcome → Prop) : Moment → Prop
  | between s => I s
  | during q => I q.initial ∧ I q.state ∧ q.Guarded (P q.initial)

theorem Moment.Upholds.state {m : Moment} (h : m.Upholds I P) : I m.state := by
  cases m with
  | between s => exact h
  | during q => exact h.2.1

namespace Engine

variable {e : Engine} {scripts : Script → Prop} {s : Snapshot} {m m' : Moment} {d : Deed}
  {q q' : Sequencer} {history : List Entry}

/-- What is done in the middle of an activation. -/
theorem Does.advances (h : e.Does (.during q) d (.during q')) (hd : d ≠ .cancel) :
    q.Advances q' := by
  cases h with
  | visit => exact q.advances_visit
  | choose _ hstep => exact Sequencer.advances_execute hstep _ _
  | cancel => exact absurd rfl hd

/-- Commands keep a property, and the steps of activations keep to a condition that gives it. -/
structure Upholds (e : Engine) (I : Snapshot → Prop) (P : Snapshot → Snapshot → Outcome → Prop) :
    Prop where
  command : ∀ {s : Snapshot} {c : Command} {out : Outcome}, I s → c.perform e s = .ok out →
    I out.state
  activate : ∀ {s : Snapshot} {source : InstanceId} {category : EffectCategory} {q : Sequencer},
    I s → e.activate s source category = .ok (.ready q) → q.Guarded (P s)
  outcome : ∀ {s₀ s : Snapshot} {out : Outcome}, P s₀ s out → I out.state

theorem Upholds.advances (he : e.Upholds I P) (h : (Moment.during q).Upholds I P)
    (hadvances : q.Advances q') : (Moment.during q').Upholds I P := by
  obtain ⟨hinitial, hstate, hguarded⟩ := h
  have hguarded' := hguarded.advances hadvances
  cases hadvances with
  | paused => exact ⟨hinitial, hstate, hguarded'⟩
  | ran status hstep hrun => exact ⟨hinitial, he.outcome (hguarded.holds hstep hrun), hguarded'⟩

theorem Does.upholds (he : e.Upholds I P) (h : e.Does m d m') (hbinding : m.Binding)
    (hm : m.Upholds I P) : m'.Upholds I P := by
  cases h with
  | command hperform => exact he.command hm hperform
  | refusedCommand | refusedActivation => exact hm
  | @activate s source category q hready =>
    have hguarded := he.activate hm hready
    obtain ⟨effect, -, -, rfl⟩ := activate_eq_ready_iff.mp hready
    exact ⟨hm, hm, hguarded⟩
  | visit hgoes => exact he.advances hm (Does.advances (.visit (e := e) hgoes) (by rintro ⟨⟩))
  | choose hstatus hstep hvalid =>
    exact he.advances hm (Does.advances (.choose (e := e) hstatus hstep hvalid) (by rintro ⟨⟩))
  | cancel hcancel => exact absurd hcancel (Sequencer.Binding.cancel_ne hbinding)
  | leave => exact hm.2.1

/-- **What an engine upholds holds at every moment of a duel.** -/
theorem Run.upholds (hstocked : e.Stocked scripts) (he : e.Upholds I P) (hs : I s)
    (h : e.Run s history m) : m.Upholds I P := by
  induction h with
  | start => exact hs
  | does hrun hdoes ih => exact hdoes.upholds he (hrun.binding hstocked) ih

/-- What is done in the middle of an activation reports what the step that ran reports, and nothing
else is reported. -/
theorem Does.exists_of_event (h : e.Does m d (.during q')) (hd : d ≠ .cancel)
    {reported : List Event} (hevents : q'.events = m.events ++ reported) {event : Event}
    (hevent : event ∈ reported) :
    ∃ q step chosen out, m = .during q ∧ q.steps[q.cursor]? = some step ∧
      step.run q.state chosen = .ok out ∧ event ∈ out.events ∧ q'.state = out.state ∧
      q'.initial = q.initial := by
  cases m with
  | between =>
    cases h with
    | activate hready =>
      obtain ⟨effect, -, -, rfl⟩ := activate_eq_ready_iff.mp hready
      obtain rfl : [] = reported := hevents
      cases hevent
  | during q =>
    cases h.advances hd with
    | paused =>
      obtain rfl : [] = reported := List.append_cancel_left ((List.append_nil _).trans hevents)
      cases hevent
    | @ran status step chosen out hstep hrun =>
      obtain rfl : out.events = reported := List.append_cancel_left hevents
      exact ⟨q, step, chosen, out, rfl, hstep, hrun, hevent, rfl, rfl⟩

/-- **What every report was checked for holds of all that is reported.** -/
theorem Run.of_event {E : Snapshot → Event → Prop} (hstocked : e.Stocked scripts)
    (he : e.Upholds I P) (hE : ∀ {s₀ s out}, P s₀ s out → ∀ event ∈ out.events, E s₀ event)
    (hs : I s) (h : e.Run s history m) :
    ∀ q, m = .during q → ∀ event ∈ q.events, E q.initial event := by
  induction h with
  | start => rintro q ⟨⟩
  | @does history m m' d hrun hdoes ih =>
    rintro q rfl
    cases m with
    | between =>
      cases hdoes with
      | activate hready =>
        obtain ⟨effect, -, -, rfl⟩ := activate_eq_ready_iff.mp hready
        intro event hevent
        cases hevent
    | during q₀ =>
      have hcancel : d ≠ .cancel := (hdoes.binding hstocked (hrun.binding hstocked)).2
      have hguarded := (hrun.upholds hstocked he hs).2.2
      cases hdoes.advances hcancel with
      | paused => exact ih q₀ rfl
      | ran status hstep hran =>
        intro event hevent
        rcases List.mem_append.mp hevent with hevent | hevent
        · exact ih q₀ rfl event hevent
        · exact hE (hguarded.holds hstep hran) event hevent

end Engine

end SoloDuel
