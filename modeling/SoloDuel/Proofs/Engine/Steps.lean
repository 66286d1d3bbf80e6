import SoloDuel.Engine.Basic
import SoloDuel.Proofs.Activation.EnterPlay
import SoloDuel.Proofs.Script.Compile
import SoloDuel.Proofs.Sequencer.Calls
/-!
# Steps are elementary changes

The steps that effects are made of handle cards and life only. With the step that puts a card into
play they come down to elementary changes, and so does what a sequencer makes of such steps.

* `Step.Prebuilt`, `CardEffect.Prebuilt` — the steps that effects are made of.
* `Instruction.takesFromField` — the instructions that may take any card off the field.
* `Step.Respects`, `Collector.Respects` — a relation that holds across steps, and across the steps
  that triggers answer with.
* `Script.meaning`, `compile_builtin` — the effect a script stands for in the game; no script is
  refused there.
* `Sequencer.lawful_of_play` — a series of calls to a sequencer, the state that an answer carries
  included.
* `Engine.activate_eq_ready_iff` — what an activation starts with.
-/

namespace SoloDuel

open Snapshot

variable {R : Snapshot → Snapshot → Prop} {s : Snapshot} {out : Outcome}

/-! ## Steps -/

namespace Step

/-- The relation holds across what the step does, whatever is chosen. -/
def Respects (step : Step) (R : Snapshot → Snapshot → Prop) : Prop :=
  ∀ s chosen out, step.run s chosen = .ok out → R s out.state

theorem Respects.mono {R' : Snapshot → Snapshot → Prop} {step : Step} (h : step.Respects R)
    (hR : ∀ {s t}, R s t → R' s t) : step.Respects R' :=
  fun s chosen out hrun => hR (h s chosen out hrun)

/-- The steps that effects are made of. -/
inductive Prebuilt : Step → Prop
  | draw (count : UInt64) : Prebuilt (.draw count)
  | drawUntil (handSize : UInt64) : Prebuilt (.drawUntil handSize)
  | discardMatching (count : UInt64) (filter : CardFilter) :
      Prebuilt (.discardMatching count filter)
  | search (filter : CardFilter) : Prebuilt (.search filter)
  | addToHand (zone : ZoneName) (filter : CardFilter) : Prebuilt (.addToHand zone filter)
  | sendToGraveyard (id : InstanceId) : Prebuilt (.sendToGraveyard id)
  | moveToField (id : InstanceId) (zone : ZoneName) (placement : Placement) :
      Prebuilt (.moveToField id zone placement)
  | addCounters (id : InstanceId) (kind : CounterKind) (amount : UInt32) (limit : Option UInt32) :
      Prebuilt (.addCounters id kind amount limit)
  | removeCounters (id : InstanceId) (kind : CounterKind) (amount : UInt32) :
      Prebuilt (.removeCounters id kind amount)
  | gainLife (side : Side) (amount : UInt32) : Prebuilt (.gainLife side amount)
  | loseLife (side : Side) (amount : UInt32) : Prebuilt (.loseLife side amount)
  | notify (id message : String) : Prebuilt (.notify id message)

/-- **A prebuilt step handles cards and life only.** -/
theorem Prebuilt.respects {step : Step} (h : step.Prebuilt) : step.Respects Handles := by
  intro s chosen out hrun
  cases h with
  | draw | drawUntil => exact (spares_of_draw (fun _ => True) hrun).handles
  | discardMatching => exact (spares_of_discard (fun _ => True) hrun).handles
  | search =>
    cases chosen with
    | nil => cases hrun
    | cons id rest => exact (spares_of_search (fun _ => True) hrun).handles
  | addToHand =>
    cases chosen with
    | nil => cases hrun
    | cons id rest => exact (spares_of_addToHand (fun _ => True) (fun _ => trivial) hrun).handles
  | sendToGraveyard => exact handles_of_moveCard hrun
  | moveToField => exact handles_of_moveToField hrun
  | addCounters => exact (spares_of_addCounters (fun _ => True) trivial hrun).handles
  | removeCounters => exact (spares_of_removeCounters (fun _ => True) trivial hrun).handles
  | gainLife | loseLife =>
    cases hrun
    exact (Handling.life s _).handles
  | notify =>
    cases hrun
    exact .refl

/-- **A prebuilt step reports no activation.** -/
theorem Prebuilt.kind_ne {step : Step} (h : step.Prebuilt) {chosen : List InstanceId}
    (hrun : step.run s chosen = .ok out) : ∀ event ∈ out.events, event.kind ≠ .spellActivated := by
  have hnone : out.events = [] → ∀ event ∈ out.events, event.kind ≠ .spellActivated := by
    intro hevents event hevent
    rw [hevents] at hevent
    cases hevent
  cases h with
  | draw | drawUntil =>
    rw [events_of_draw hrun]
    simp [Event.kind]
  | discardMatching => exact hnone (events_of_discard hrun)
  | search =>
    cases chosen with
    | nil => cases hrun
    | cons id rest => exact hnone (events_of_search hrun)
  | addToHand =>
    cases chosen with
    | nil => cases hrun
    | cons id rest => exact hnone (events_of_addToHand hrun)
  | sendToGraveyard => exact hnone (events_of_moveCard hrun)
  | moveToField => exact hnone (events_of_moveToField hrun)
  | addCounters => exact hnone (events_of_addCounters hrun)
  | removeCounters => exact hnone (events_of_removeCounters hrun)
  | gainLife | loseLife =>
    cases hrun
    simp [Event.kind]
  | notify =>
    cases hrun
    exact hnone rfl

end Step

theorem Instruction.prebuilt (i : Instruction) (source : InstanceId) :
    (i.step source).Prebuilt := by
  cases i with
  | draw count => exact .draw count
  | drawUntil handSize => exact .drawUntil handSize
  | discard count => exact .discardMatching count .any
  | search filter => exact .search filter
  | addToHand zone filter => exact .addToHand zone filter
  | gainLife side amount => exact .gainLife side amount
  | loseLife side amount => exact .loseLife side amount
  | addCounters kind amount limit => exact .addCounters source kind amount limit
  | removeCounters kind amount => exact .removeCounters source kind amount
  | sendSourceToGraveyard => exact .sendToGraveyard source

/-- Whether the instruction has the player take a card off a zone on the field. -/
def Instruction.takesFromField : Instruction → Bool
  | addToHand origin _ => origin.isOnField
  | _ => false

namespace ActivationTemplate

theorem handles_of_enterPlay {destination : Option ZoneName} {card : CardInstance}
    (h : enterPlay destination s card = .ok out) : Handles s out.state := by
  unfold enterPlay at h
  split at h
  · exact handles_of_moveToField h
  · cases h
    exact .refl
  · split at h
    · cases h
      exact .refl
    · exact handles_of_flipFaceUp h

section Activate

variable {t : ActivationTemplate} {name : String} {source : InstanceId} {effect : EffectId}
  {once : OncePerTurn} {chosen : List InstanceId}

/-- The first step of an activation puts a card into play and marks the effect as used. -/
theorem exists_enterPlay_of_activate
    (h : (t.activate name source effect once).run s chosen = .ok out) :
    ∃ card entered, s.find? source = some card ∧ enterPlay t.destination s card = .ok entered ∧
      out.state = mark entered.state source effect once := by
  dsimp only [activate] at h
  split at h
  · cases h
  · rename_i card hfind
    obtain ⟨entered, henter, hout⟩ := bind_eq_ok.mp h
    cases hout
    exact ⟨card, entered, hfind, henter, rfl⟩

theorem exists_handles_of_activate
    (h : (t.activate name source effect once).run s chosen = .ok out) :
    ∃ u, Handles s u ∧ out.state = mark u source effect once := by
  obtain ⟨card, entered, -, henter, hout⟩ := exists_enterPlay_of_activate h
  exact ⟨entered.state, handles_of_enterPlay henter, hout⟩

end Activate

theorem leads_mark (s : Snapshot) (source : InstanceId) (effect : EffectId) (once : OncePerTurn) :
    Leads s (mark s source effect once) := by
  cases once with
  | unlimited => exact (Change.fielded s source _).leads
  | card => exact (Change.cardUsed s effect.card).leads
  | copy => exact (Change.effectUsed s source effect).leads

theorem activate_respects (t : ActivationTemplate) (name : String) (source : InstanceId)
    (effect : EffectId) (once : OncePerTurn) :
    (t.activate name source effect once).Respects Leads := by
  intro s chosen out h
  obtain ⟨u, hhandles, hout⟩ := exists_handles_of_activate h
  rw [hout]
  exact hhandles.leads.trans (leads_mark u source effect once)

/-- Reporting the activation changes nothing. -/
theorem announce_respects (t : ActivationTemplate) (name : String) (source : InstanceId)
    (effect : EffectId) : (t.announce name source effect).Respects Handles := by
  intro s chosen out h
  cases h
  exact .refl

end ActivationTemplate

/-! ## Effects -/

/-- The steps of what the effect does, without the way to the graveyard. -/
def CardEffect.body (e : CardEffect) (s : Snapshot) (source : InstanceId) : List Step :=
  match e.resolution with
  | some resolution => resolution s source
  | none => []

/-- What the effect does is made of prebuilt steps. -/
def CardEffect.Prebuilt (e : CardEffect) : Prop :=
  ∀ s source, ∀ step ∈ e.body s source, step.Prebuilt

/-- What the effect does is a list of instructions. -/
def CardEffect.Performs (e : CardEffect) (instructions : List Instruction) : Prop :=
  ∀ s source, e.body s source = instructions.map (·.step source)

theorem CardEffect.Performs.prebuilt {e : CardEffect} {instructions : List Instruction}
    (h : e.Performs instructions) : e.Prebuilt := by
  intro s source step hstep
  rw [h s source] at hstep
  obtain ⟨i, -, rfl⟩ := List.mem_map.mp hstep
  exact i.prebuilt source

namespace CardEffect

variable {e : CardEffect} {source : InstanceId}

theorem resolutionSteps_eq (e : CardEffect) (s : Snapshot) (source : InstanceId) :
    e.resolutionSteps s source =
      e.body s source ++
        if e.template.isSelfContained then [Step.sendToGraveyard source] else [] := by
  cases h : e.resolution <;> simp only [resolutionSteps, body, h] <;> split <;> simp

theorem resolutionSteps_prebuilt (he : e.Prebuilt) :
    ∀ step ∈ e.resolutionSteps s source, step.Prebuilt := by
  intro step hstep
  rw [resolutionSteps_eq] at hstep
  rcases List.mem_append.mp hstep with hstep | hstep
  · exact he s source step hstep
  · split at hstep
    · obtain rfl := List.mem_singleton.mp hstep
      exact .sendToGraveyard source
    · cases hstep

/-- An activation puts the source into play. The steps after that handle cards and life only. -/
theorem exists_steps_eq (he : e.Prebuilt) {card : CardInstance}
    (hfind : s.find? source = some card) :
    ∃ rest, e.steps s source = e.template.activate card.name source e.id e.once :: rest ∧
      ∀ step ∈ rest, step.Respects Handles := by
  refine ⟨_, e.steps_eq hfind, ?_⟩
  rw [List.forall_mem_cons, List.forall_mem_cons]
  exact ⟨(Step.Prebuilt.notify _ _).respects, ActivationTemplate.announce_respects _ _ _ _,
    fun step hstep => (resolutionSteps_prebuilt he step hstep).respects⟩

end CardEffect

/-! ## Scripts -/

/-- The effect a script stands for in the game. -/
def Script.meaning (script : Script) : CardEffect :=
  (CardEffect.new script.card script.template script.once)
    |>.requiring (fun s source =>
      script.conditions.forM fun c => ConditionCheck.ofKind c.kind c s source)
    |>.resolving (fun _ source => script.instructions.map (·.step source))

theorem ConditionTable.find?_builtin (kind : ConditionKind) :
    ConditionTable.builtin.find? kind = some (ConditionCheck.ofKind kind) := by
  cases kind <;> rfl

theorem InstructionTable.find?_builtin (kind : InstructionKind) :
    InstructionTable.builtin.find? kind = some Instruction.step := by
  cases kind <;> rfl

/-- **Every script can be compiled in the game.** -/
theorem Script.compile_builtin (script : Script) :
    script.compile .builtin .builtin = .ok script.meaning :=
  script.compile_eq_ok ConditionCheck.ofKind (fun _ => Instruction.step)
    (fun c _ => ConditionTable.find?_builtin c.kind)
    (fun i _ => InstructionTable.find?_builtin i.kind)

theorem Script.meaning_performs (script : Script) :
    script.meaning.Performs script.instructions := fun _ _ => rfl

/-! ## Sequencers -/

/-- The relation holds across every step that triggers answer with. -/
def Collector.Respects (collector : Collector) (R : Snapshot → Snapshot → Prop) : Prop :=
  ∀ s event, ∀ step ∈ collector s event, step.Respects R

/-- The snapshot that an answer carries. -/
def SequencerAnswer.state? : SequencerAnswer → Option Snapshot
  | .completed state => some state
  | .failed state _ _ => some state
  | .cancelled state => some state
  | .awaiting _ => none
  | .rejected _ _ => none

namespace Sequencer

variable {q q' : Sequencer} {s₀ : Snapshot}

/-- The steps of a sequencer after one has run: what there was, and what triggers answer with. -/
theorem mem_steps_accept {q : Sequencer} {out : Outcome} {step : Step}
    (h : step ∈ (q.accept out).steps) :
    step ∈ q.steps ∨ ∃ event ∈ out.events, step ∈ q.collector out.state event := by
  simp only [Sequencer.accept, List.mem_append, List.mem_flatMap] at h
  rcases h with (hmem | hmem) | hmem
  · exact .inl (List.mem_of_mem_take hmem)
  · exact .inr hmem
  · exact .inl (List.mem_of_mem_drop hmem)

/-- The relation holds across the steps and triggers of the sequencer, and from the snapshot it
started from to the one at hand. -/
structure Lawful (R : Snapshot → Snapshot → Prop) (s₀ : Snapshot) (q : Sequencer) : Prop where
  steps : ∀ step ∈ q.steps, step.Respects R
  collector : q.collector.Respects R
  initial : q.initial = s₀
  state : R s₀ q.state

section Lawful

variable (hrefl : ∀ s, R s s) (htrans : ∀ {s t u}, R s t → R t u → R s u)

include htrans

/-- A step runs at the cursor. -/
theorem Lawful.accept (h : q.Lawful R s₀) {step : Step} {chosen : List InstanceId}
    (hstep : q.steps[q.cursor]? = some step) (hrun : step.run q.state chosen = .ok out) :
    (q.accept out).Lawful R s₀ where
  steps := by
    intro step hstep
    rcases mem_steps_accept hstep with hstep | ⟨event, -, hstep⟩
    · exact h.steps step hstep
    · exact h.collector out.state event step hstep
  collector := h.collector
  initial := h.initial
  state := htrans h.state (h.steps step (List.mem_of_getElem? hstep) q.state chosen out hrun)

include hrefl

theorem Answers.lawful {c : SequencerCall} {a : SequencerAnswer} (h : q.Answers c q' a)
    (hq : q.Lawful R s₀) : q'.Lawful R s₀ :=
  h.preserves (fun _ hq => ⟨hq.steps, hq.collector, hq.initial, hq.state⟩)
    (fun hq hstep hrun => hq.accept htrans hstep hrun) hq
    fun _ => ⟨hq.steps, hq.collector, hq.initial, hq.initial ▸ hrefl _⟩

end Lawful

theorem Visit.state_eq {a : SequencerAnswer} {t : Snapshot} (h : q.Visit q' (some a))
    (ht : a.state? = some t) : t = q'.state := by
  cases h <;> cases ht <;> rfl

/-- An answer carries the snapshot of the sequencer after it. -/
theorem Answers.state_eq {c : SequencerCall} {a : SequencerAnswer} {t : Snapshot}
    (h : q.Answers c q' a) (ht : a.state? = some t) : t = q'.state := by
  cases h with
  | started _ _ hlast => exact hlast.state_eq ht
  | resumed _ _ _ _ _ hlast => exact hlast.state_eq ht
  | rejected => cases ht
  | kept => cases ht
  | failed =>
    cases ht
    rfl
  | cancelled => exact (Option.some.inj ht).symm

section Lawful

variable (hrefl : ∀ s, R s s) (htrans : ∀ {s t u}, R s t → R t u → R s u)

include hrefl htrans

theorem lawful_of_answer {fuel : Nat} {c : SequencerCall} {result : CallResult}
    (h : q.answer fuel c = some (q', result)) (hq : q.Lawful R s₀) :
    q'.Lawful R s₀ ∧ ∀ a t, result = .ok a → a.state? = some t → R s₀ t := by
  rcases answers_of_answer h with ⟨fault, rfl, rfl⟩ | ⟨a, rfl, hanswers⟩
  · exact ⟨hq, fun a t ha => by cases ha⟩
  · have hlawful := hanswers.lawful hrefl htrans hq
    refine ⟨hlawful, fun a t ha ht => ?_⟩
    cases ha
    rw [hanswers.state_eq ht]
    exact hlawful.state

/-- **What the steps and triggers of a sequencer keep, calls to it keep**, and so does every
snapshot that an answer carries. -/
theorem lawful_of_play {fuel : Nat} {calls : List SequencerCall} {log : CallLog}
    (hq : q.Lawful R s₀) (h : q.play fuel calls = some (q', log)) :
    q'.Lawful R s₀ ∧ ∀ c a t, (c, .ok a) ∈ log → a.state? = some t → R s₀ t := by
  induction calls generalizing q log with
  | nil =>
    cases h
    exact ⟨hq, by simp⟩
  | cons c calls ih =>
    obtain ⟨q₁, result, rest, hanswer, hrest, rfl⟩ := playCalls_cons_eq_some.mp h
    obtain ⟨hq₁, hfirst⟩ := lawful_of_answer hrefl htrans hanswer hq
    obtain ⟨hq', hlater⟩ := ih hq₁ hrest
    refine ⟨hq', fun c a t hmem ht => ?_⟩
    rcases List.mem_cons.mp hmem with hmem | hmem
    · cases hmem
      exact hfirst a t rfl ht
    · exact hlater c a t hmem ht

end Lawful

end Sequencer

/-! ## Activations -/

namespace Engine

variable {e : Engine} {source : InstanceId} {category : EffectCategory} {effect : CardEffect}
  {q : Sequencer}

/-- The effect of a copy is the one its species has. -/
theorem effectOf_eq_ok_iff :
    e.effectOf s source category = .ok effect ↔
      ∃ card, s.find? source = some card ∧ e.effects.get card.cardId category = .ok effect := by
  unfold effectOf
  cases s.find? source with
  | none => simp
  | some card =>
    cases hget : e.effects.get card.cardId category <;> simp [Except.mapError, hget]

/-- **What an activation starts with.** -/
theorem activate_eq_ready_iff :
    e.activate s source category = .ok (.ready q) ↔
      ∃ effect, e.effectOf s source category = .ok effect ∧
        effect.validate e.book s source = .ok () ∧
        q = .new s (effect.steps s source) e.book.collect := by
  rw [activate, bind_eq_ok]
  refine exists_congr fun effect => and_congr_right fun _ => ?_
  cases effect.validate e.book s source <;> simp [pure, Except.pure, eq_comm]

theorem exists_effect_of_activate (h : e.activate s source category = .ok (.ready q)) :
    ∃ card effect, s.find? source = some card ∧
      e.effects.get card.cardId category = .ok effect ∧ effect.validate e.book s source = .ok () ∧
      q = .new s (effect.steps s source) e.book.collect := by
  obtain ⟨effect, hof, hvalid, hq⟩ := activate_eq_ready_iff.mp h
  obtain ⟨card, hfind, hget⟩ := effectOf_eq_ok_iff.mp hof
  exact ⟨card, effect, hfind, hget, hvalid, hq⟩

end Engine

end SoloDuel
