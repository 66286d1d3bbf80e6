import SoloDuel.Proofs.Engine.Stock
import SoloDuel.Proofs.Snapshot.Touched
/-!
# The operations that steps carry out

A step of an effect is an operation with the cards the player has chosen, or it is one of the steps
that put a card into play, tell the player something or report the activation. What a run of steps
does to a duel can so be listed as operations.

* `Step.CarriesOut` — the operation that a step is with chosen cards, if it is one.
* `CarriesOut.run_eq`, `CarriesOut.idle` — what it does then, and what it leaves alone otherwise.
* `Step.Operates`, `Sequencer.Operates` — a step, and a run, of which this can be said.
* `Step.Prebuilt.operates`, `Instruction.operates`, `Engine.Stocked.operates` — the prebuilt steps,
  those of scripts, and the activations of an engine with the library and scripts.
-/

namespace SoloDuel

open Snapshot

variable {s : Snapshot} {out : Outcome} {step : Step} {chosen : List InstanceId}

namespace Step

/-- The operation that a step is with chosen cards, if it is one. How the step is named and asks for
the cards plays no part. -/
inductive CarriesOut : Step → List InstanceId → Option Operation → Prop
  | draw (count : UInt64) (chosen : List InstanceId) :
      CarriesOut (.draw count) chosen (some (.draw count))
  | drawUntil (handSize : UInt64) (chosen : List InstanceId) :
      CarriesOut (.drawUntil handSize) chosen (some (.drawUntil handSize))
  | discard (count : UInt64) (filter : CardFilter) (chosen : List InstanceId) :
      CarriesOut (.discardMatching count filter) chosen (some (.discard chosen))
  | search (filter : CardFilter) (id : InstanceId) (rest : List InstanceId) :
      CarriesOut (.search filter) (id :: rest) (some (.search id))
  | addToHand (zone : ZoneName) (filter : CardFilter) (id : InstanceId) (rest : List InstanceId) :
      CarriesOut (.addToHand zone filter) (id :: rest) (some (.addToHand id zone))
  | sendToGraveyard (id : InstanceId) (chosen : List InstanceId) :
      CarriesOut (.sendToGraveyard id) chosen (some (.sendToGraveyard id))
  | moveToField (id : InstanceId) (zone : ZoneName) (placement : Placement)
      (chosen : List InstanceId) :
      CarriesOut (.moveToField id zone placement) chosen (some (.moveToField id zone placement))
  | addCounters (id : InstanceId) (kind : CounterKind) (amount : UInt32) (limit : Option UInt32)
      (chosen : List InstanceId) :
      CarriesOut (.addCounters id kind amount limit) chosen
        (some (.addCounters id kind amount limit))
  | removeCounters (id : InstanceId) (kind : CounterKind) (amount : UInt32)
      (chosen : List InstanceId) :
      CarriesOut (.removeCounters id kind amount) chosen (some (.removeCounters id kind amount))
  | gainLife (side : Side) (amount : UInt32) (chosen : List InstanceId) :
      CarriesOut (.gainLife side amount) chosen (some (.gainLife side amount))
  | loseLife (side : Side) (amount : UInt32) (chosen : List InstanceId) :
      CarriesOut (.loseLife side amount) chosen (some (.loseLife side amount))
  /-- Without a card there is nothing to search. -/
  | searchNone (filter : CardFilter) : CarriesOut (.search filter) [] none
  /-- Without a card there is nothing to add. -/
  | addNone (zone : ZoneName) (filter : CardFilter) : CarriesOut (.addToHand zone filter) [] none
  | notify (id message : String) (chosen : List InstanceId) :
      CarriesOut (.notify id message) chosen none
  | activate (t : ActivationTemplate) (name : String) (source : InstanceId) (effect : EffectId)
      (once : OncePerTurn) (chosen : List InstanceId) :
      CarriesOut (t.activate name source effect once) chosen none
  | announce (t : ActivationTemplate) (name : String) (source : InstanceId) (effect : EffectId)
      (chosen : List InstanceId) : CarriesOut (t.announce name source effect) chosen none
  | dressed {step other : Step} {chosen : List InstanceId} {o : Option Operation} :
      other.run = step.run → CarriesOut step chosen o → CarriesOut other chosen o

/-- **A step does what the operation does that it is.** -/
theorem CarriesOut.run_eq {o : Option Operation} (h : step.CarriesOut chosen o) :
    ∀ p, o = some p → ∀ s, step.run s chosen = p.perform s := by
  induction h with
  | searchNone | addNone | notify | activate | announce => nofun
  | dressed hrun _ ih =>
    intro p hp s
    rw [hrun]
    exact ih p hp s
  | _ =>
    rintro p ⟨⟩ s
    rfl

end Step

/-! ## Steps that are no operation -/

namespace ActivationTemplate

variable {t : ActivationTemplate} {name : String} {source : InstanceId} {effect : EffectId}
  {once : OncePerTurn}

theorem boardOnly_of_enterPlay {destination : Option ZoneName} {card : CardInstance}
    (h : enterPlay destination s card = .ok out) : s.BoardOnly out.state := by
  unfold enterPlay at h
  split at h
  · exact boardOnly_of_moveToField h
  · cases h
    exact .refl s
  · split at h
    · cases h
      exact .refl s
    · exact boardOnly_of_flipFaceUp h

theorem events_of_enterPlay {destination : Option ZoneName} {card : CardInstance}
    (h : enterPlay destination s card = .ok out) : out.events = [] := by
  unfold enterPlay at h
  split at h
  · exact events_of_moveToField h
  · cases h
    rfl
  · split at h
    · cases h
      rfl
    · exact events_of_flipFaceUp h

theorem events_of_activate (h : (t.activate name source effect once).run s chosen = .ok out) :
    out.events = [] := by
  dsimp only [activate] at h
  split at h
  · cases h
  · obtain ⟨entered, henter, hout⟩ := bind_eq_ok.mp h
    cases hout
    have hevents : entered.events = [] := events_of_enterPlay henter
    exact hevents

theorem rng_mark (s : Snapshot) (source : InstanceId) (effect : EffectId) (once : OncePerTurn) :
    (mark s source effect once).rng = s.rng := by
  cases once <;> rfl

theorem life_mark (s : Snapshot) (source : InstanceId) (effect : EffectId) (once : OncePerTurn) :
    (mark s source effect once).life = s.life := by
  cases once <;> rfl

end ActivationTemplate

namespace Step

/-- What can come of a step that is no operation. -/
structure Idle (s : Snapshot) (out : Outcome) : Prop where
  rng : out.state.rng = s.rng
  life : out.state.life = s.life
  events : ∀ event ∈ out.events, event.kind ≠ .lifeChanged

theorem idle_of_activate {t : ActivationTemplate} {name : String} {source : InstanceId}
    {effect : EffectId} {once : OncePerTurn}
    (h : (t.activate name source effect once).run s chosen = .ok out) : Idle s out := by
  have hevents := ActivationTemplate.events_of_activate h
  obtain ⟨card, entered, -, henter, hout⟩ := ActivationTemplate.exists_enterPlay_of_activate h
  have hboard := ActivationTemplate.boardOnly_of_enterPlay henter
  refine ⟨?_, ?_, by simp [hevents]⟩
  · rw [hout, ActivationTemplate.rng_mark, hboard.rng_eq]
  · rw [hout, ActivationTemplate.life_mark, hboard.life_eq]

theorem idle_of_announce {t : ActivationTemplate} {name : String} {source : InstanceId}
    {effect : EffectId} (h : (t.announce name source effect).run s chosen = .ok out) :
    Idle s out := by
  cases h
  refine ⟨rfl, rfl, ?_⟩
  cases t <;> simp [ActivationTemplate.event, Event.kind]

/-- A step that is no operation leaves the generator and the life alone. -/
theorem CarriesOut.idle {o : Option Operation} (h : step.CarriesOut chosen o) (ho : o = none)
    (hrun : step.run s chosen = .ok out) : Idle s out := by
  induction h with
  | searchNone | addNone => cases hrun
  | notify =>
    cases hrun
    exact ⟨rfl, rfl, by simp⟩
  | activate => exact idle_of_activate hrun
  | announce => exact idle_of_announce hrun
  | dressed hsame _ ih => exact ih ho (hsame ▸ hrun)
  | _ => cases ho

/-- What can come of a step, an operation or not. -/
theorem CarriesOut.spec {o : Option Operation} (h : step.CarriesOut chosen o)
    (hrun : step.run s chosen = .ok out) :
    (∃ p, o = some p ∧ p.Touches s out) ∨ o = none ∧ Idle s out := by
  cases o with
  | none => exact .inr ⟨rfl, h.idle rfl hrun⟩
  | some p =>
    rw [h.run_eq p rfl] at hrun
    exact .inl ⟨p, rfl, Operation.touches_of_perform hrun⟩

/-! ## Steps of which this can be said -/

/-- Whatever is chosen, it can be said which operation the step is. -/
def Operates (step : Step) : Prop := ∀ chosen, ∃ o, step.CarriesOut chosen o

theorem Operates.dressed {other : Step} (h : step.Operates) (hrun : other.run = step.run) :
    other.Operates := by
  intro chosen
  obtain ⟨o, ho⟩ := h chosen
  exact ⟨o, .dressed hrun ho⟩

/-- **A prebuilt step is an operation**, but for those that only tell the player something. -/
theorem Prebuilt.operates (h : step.Prebuilt) : step.Operates := by
  intro chosen
  cases h with
  | draw => exact ⟨_, .draw ..⟩
  | drawUntil => exact ⟨_, .drawUntil ..⟩
  | discardMatching => exact ⟨_, .discard ..⟩
  | search =>
    cases chosen with
    | nil => exact ⟨_, .searchNone _⟩
    | cons id rest => exact ⟨_, .search ..⟩
  | addToHand =>
    cases chosen with
    | nil => exact ⟨_, .addNone ..⟩
    | cons id rest => exact ⟨_, .addToHand ..⟩
  | sendToGraveyard => exact ⟨_, .sendToGraveyard ..⟩
  | moveToField => exact ⟨_, .moveToField ..⟩
  | addCounters => exact ⟨_, .addCounters ..⟩
  | removeCounters => exact ⟨_, .removeCounters ..⟩
  | gainLife => exact ⟨_, .gainLife ..⟩
  | loseLife => exact ⟨_, .loseLife ..⟩
  | notify => exact ⟨_, .notify ..⟩

end Step

/-- The step of an instruction is an operation. -/
theorem Instruction.operates (i : Instruction) (source : InstanceId) : (i.step source).Operates :=
  (i.prebuilt source).operates

namespace Sequencer

variable {q : Sequencer}

/-- It can be said of every step of a run, and of every step that triggers answer with, which
operation it is. -/
structure Operates (q : Sequencer) : Prop where
  steps : ∀ step ∈ q.steps, step.Operates
  collector : ∀ s event, ∀ step ∈ q.collector s event, step.Operates

theorem Operates.accept (h : q.Operates) (out : Outcome) : (q.accept out).Operates where
  steps := by
    intro step hstep
    rcases mem_steps_accept hstep with hstep | ⟨event, -, hstep⟩
    · exact h.steps step hstep
    · exact h.collector out.state event step hstep
  collector := h.collector

end Sequencer

namespace Engine

variable {e : Engine} {scripts : Script → Prop} {q : Sequencer}

/-- The activations of an engine with the library and scripts are made of operations. -/
theorem Stocked.operates (he : e.Stocked scripts) {source : InstanceId}
    {category : EffectCategory} (h : e.activate s source category = .ok (.ready q)) :
    q.Operates := by
  obtain ⟨card, effect, hfind, hget, -, rfl⟩ := exists_effect_of_activate h
  have heffect : effect.Prebuilt := he.prebuilt_effect (Registry.mem_values_of_get hget)
  refine ⟨?_, fun s event step hstep => ?_⟩
  · change ∀ step ∈ effect.steps s source, step.Operates
    rw [effect.steps_eq hfind, List.forall_mem_cons, List.forall_mem_cons, List.forall_mem_cons]
    exact ⟨fun chosen => ⟨_, .activate ..⟩, fun chosen => ⟨_, .notify ..⟩,
      fun chosen => ⟨_, .announce ..⟩, fun step hstep =>
        (CardEffect.resolutionSteps_prebuilt heffect step hstep).operates⟩
  · obtain ⟨id, limit, rfl⟩ := he.exists_eq_addCounters_of_mem_collect hstep
    exact (Step.Prebuilt.addCounters id .spell 1 limit).operates

end Engine

end SoloDuel
