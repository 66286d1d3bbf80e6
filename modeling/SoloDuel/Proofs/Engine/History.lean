import SoloDuel.Proofs.Engine.Ordinary
import SoloDuel.Proofs.Engine.Placement
import SoloDuel.Proofs.Sequencer.Protocol
/-!
# What was done in a duel

A duel is a row of things done one at a time: commands, the beginning of an activation, each step of
it, each choice of the player, and going on with the snapshot that an activation has got to. The
history of a duel lists them, each with where the duel had got to after it, so that a snapshot can
be asked where it comes from.

* `Moment`, `Deed`, `Engine.Does` — where a duel can be, and what can be done there.
* `Entry`, `Engine.Run` — histories, and the duels that have them.
* `Engine.Run.call`, `Engine.Run.played` — a call to a sequencer is a row of deeds, and so every
  snapshot that commands and activations lead to has a history.
* `Moment.Lawful`, `Engine.Does.upshot` — a relation that holds across every step of an activation
  holds across every deed but commands, and cancelling turns it around.
-/

namespace SoloDuel

open Snapshot

/-! ## Deeds -/

/-- Where a duel has got to. -/
inductive Moment where
  /-- Between two plays. -/
  | between (s : Snapshot)
  /-- In the middle of an activation. -/
  | during (q : Sequencer)

/-- The snapshot at hand. -/
def Moment.state : Moment → Snapshot
  | between s => s
  | during q => q.state

/-- What can be done in a duel. -/
inductive Deed where
  /-- A command that is not refused. -/
  | command (c : Command)
  /-- A command or the beginning of an activation that is refused. -/
  | refused
  /-- The beginning of an activation. -/
  | activate (source : InstanceId) (category : EffectCategory)
  /-- Taking up the next step of an activation. -/
  | visit
  /-- Running the step that waits, with chosen cards. -/
  | choose (chosen : List InstanceId)
  /-- Cancelling the activation. -/
  | cancel
  /-- Going on with the snapshot that an activation has got to, ended or not. -/
  | leave
  deriving DecidableEq

/-- Whether a run may take up its next step. -/
def SequencerStatus.goesOn : SequencerStatus → Bool
  | .idle => true
  | .running _ => true
  | _ => false

namespace Engine

/-- What a deed makes of where the duel is. -/
inductive Does (e : Engine) : Moment → Deed → Moment → Prop
  | command {s : Snapshot} {c : Command} {out : Outcome} : c.perform e s = .ok out →
      Does e (.between s) (.command c) (.between out.state)
  | refusedCommand {s : Snapshot} {c : Command} {refusal : Refusal} :
      c.perform e s = .error refusal → Does e (.between s) .refused (.between s)
  | refusedActivation {s : Snapshot} {source : InstanceId} {category : EffectCategory}
      {refusal : Refusal} : e.activate s source category = .ok (.refused refusal) →
      Does e (.between s) .refused (.between s)
  | activate {s : Snapshot} {source : InstanceId} {category : EffectCategory} {q : Sequencer} :
      e.activate s source category = .ok (.ready q) →
      Does e (.between s) (.activate source category) (.during q)
  | visit {q : Sequencer} : q.status.goesOn = true → Does e (.during q) .visit (.during q.visit.1)
  | choose {q : Sequencer} {i : Nat} {request : SelectionRequest} {step : Step}
      {chosen : List InstanceId} : q.status = .awaiting i request →
      q.steps[q.cursor]? = some step → step.validate q.state chosen = .ok () →
      Does e (.during q) (.choose chosen)
        (.during ({ q with status := .running q.cursor }.execute step chosen).1)
  | cancel {q q' : Sequencer} {t : Snapshot} : q.cancel = .ok (q', .cancelled t) →
      Does e (.during q) .cancel (.during q')
  | leave {q : Sequencer} : Does e (.during q) .leave (.between q.state)

end Engine

/-- Something that was done, and where the duel had got to after it. -/
structure Entry where
  deed : Deed
  after : Moment

/-- The snapshot after what was done. -/
def Entry.state (x : Entry) : Snapshot := x.after.state

namespace Engine

/-- What was done since a snapshot, in order, and where that has got to. -/
inductive Run (e : Engine) (s : Snapshot) : List Entry → Moment → Prop
  | start : Run e s [] (.between s)
  | does {history : List Entry} {m m' : Moment} {d : Deed} : Run e s history m → e.Does m d m' →
      Run e s (history ++ [⟨d, m'⟩]) m'

variable {e : Engine} {s t : Snapshot} {history : List Entry} {m m' : Moment} {d : Deed}
  {q q' : Sequencer}

/-! ## Calls are rows of deeds -/

/-- A step that runs leaves the run going. -/
theorem goesOn_of_visit (h : q.visit = (q', none)) : q'.status.goesOn = true := by
  have hvisit := q.visit_spec
  rw [h] at hvisit
  cases hvisit with
  | ran => rfl

theorem Run.run {fuel : Nat} {a : SequencerAnswer} (h : e.Run s history (.during q))
    (hgoes : q.status.goesOn = true) (hrun : q.run fuel = some (q', a)) :
    ∃ more, e.Run s (history ++ more) (.during q') := by
  induction fuel generalizing q history with
  | zero => cases hrun
  | succ fuel ih =>
    have hfirst := h.does (.visit hgoes)
    rw [Sequencer.run] at hrun
    split at hrun
    · rename_i q₁ b hvisit
      cases hrun
      rw [hvisit] at hfirst
      exact ⟨_, hfirst⟩
    · rename_i q₁ hvisit
      rw [hvisit] at hfirst
      obtain ⟨more, hmore⟩ := ih hfirst (goesOn_of_visit hvisit) hrun
      rw [List.append_assoc] at hmore
      exact ⟨_, hmore⟩

/-- **A call to a sequencer is a row of deeds.** -/
theorem Run.call {fuel : Nat} {c : SequencerCall} {a : SequencerAnswer}
    (h : e.Run s history (.during q)) (hcall : q.call fuel c = .ok (some (q', a))) :
    ∃ more, e.Run s (history ++ more) (.during q') := by
  have hnothing : e.Run s (history ++ []) (.during q) := by
    rw [List.append_nil]
    exact h
  cases c with
  | start =>
    simp only [Sequencer.call, Sequencer.start] at hcall
    split at hcall
    · rename_i hidle
      exact h.run (by rw [hidle]; rfl) (Except.ok.inj hcall)
    · cases hcall
  | provide chosen =>
    simp only [Sequencer.call, Sequencer.provide] at hcall
    split at hcall
    · rename_i i request step hstatus hstep
      split at hcall
      · cases hcall
        exact ⟨[], hnothing⟩
      · rename_i hvalid
        have hchosen := h.does (.choose hstatus hstep hvalid)
        split at hcall
        · rename_i q₁ b hexecute
          cases hcall
          rw [hexecute] at hchosen
          exact ⟨_, hchosen⟩
        · rename_i q₁ hexecute
          rw [hexecute] at hchosen
          have hgoes : q₁.status.goesOn = true := by
            unfold Sequencer.execute at hexecute
            split at hexecute
            · cases hexecute
              rfl
            · cases hexecute
          obtain ⟨more, hmore⟩ := hchosen.run hgoes (Except.ok.inj hcall)
          rw [List.append_assoc] at hmore
          exact ⟨_, hmore⟩
    · cases hcall
  | cancel =>
    have hanswers := Sequencer.answers_of_call hcall
    obtain ⟨r, hcancel, hr⟩ := exists_of_map_eq_ok hcall
    obtain rfl := Option.some.inj hr
    cases hanswers with
    | cancelled => exact ⟨_, h.does (.cancel hcancel)⟩
    | kept => exact ⟨[], hnothing⟩

theorem Run.answer {fuel : Nat} {c : SequencerCall} {result : CallResult}
    (h : e.Run s history (.during q)) (hanswer : q.answer fuel c = some (q', result)) :
    ∃ more, e.Run s (history ++ more) (.during q') := by
  unfold Sequencer.answer at hanswer
  split at hanswer
  · cases hanswer
    exact ⟨[], by rw [List.append_nil]; exact h⟩
  · cases hanswer
  · rename_i q₁ a hcall
    cases hanswer
    exact h.call hcall

/-- A series of calls is a row of deeds, and every snapshot that an answer carries is on the way. -/
theorem Run.play {fuel : Nat} {calls : List SequencerCall} {log : CallLog}
    (h : e.Run s history (.during q)) (hplay : q.play fuel calls = some (q', log)) :
    (∃ more, e.Run s (history ++ more) (.during q')) ∧
      ∀ c a t, (c, .ok a) ∈ log → a.state? = some t →
        ∃ more q₁, e.Run s (history ++ more) (.during q₁) ∧ q₁.state = t := by
  induction calls generalizing q history log with
  | nil =>
    cases hplay
    exact ⟨⟨[], by rw [List.append_nil]; exact h⟩, by simp⟩
  | cons c calls ih =>
    obtain ⟨q₁, result, rest, hanswer, hrest, rfl⟩ := playCalls_cons_eq_some.mp hplay
    obtain ⟨first, hfirst⟩ := h.answer hanswer
    obtain ⟨⟨more, hmore⟩, hlater⟩ := ih hfirst hrest
    rw [List.append_assoc] at hmore
    refine ⟨⟨_, hmore⟩, fun c a t hmem ht => ?_⟩
    rcases List.mem_cons.mp hmem with hmem | hmem
    · cases hmem
      rcases Sequencer.answers_of_answer hanswer with ⟨fault, hfault, -⟩ | ⟨b, hb, hanswers⟩
      · cases hfault
      · cases hb
        exact ⟨first, q₁, hfirst, (hanswers.state_eq ht).symm⟩
    · obtain ⟨after, q₂, hafter, hstate⟩ := hlater c a t hmem ht
      rw [List.append_assoc] at hafter
      exact ⟨_, q₂, hafter, hstate⟩

/-- **Every snapshot that commands and activations lead to has a history.** -/
theorem exists_run_of_played {deck : List CardId} (h : e.Played deck s) :
    ∃ s₀ history, e.newGame deck = .ok s₀ ∧ e.Run s₀ history (.between s) := by
  induction h with
  | opening hopening => exact ⟨_, [], hopening, .start⟩
  | command _ hperform ih =>
    obtain ⟨s₀, history, hopening, hrun⟩ := ih
    exact ⟨s₀, _, hopening, hrun.does (.command hperform)⟩
  | activation _ hactivate hplay ih =>
    obtain ⟨s₀, history, hopening, hrun⟩ := ih
    obtain ⟨⟨more, hmore⟩, -⟩ := (hrun.does (.activate hactivate)).play hplay
    exact ⟨s₀, _, hopening, hmore.does .leave⟩
  | answer _ hactivate hplay hmem hstate ih =>
    obtain ⟨s₀, history, hopening, hrun⟩ := ih
    obtain ⟨-, hanswers⟩ := (hrun.does (.activate hactivate)).play hplay
    obtain ⟨more, q₁, hmore, rfl⟩ := hanswers _ _ _ hmem hstate
    exact ⟨s₀, _, hopening, hmore.does .leave⟩

/-- Commands that are not refused go on with the duel. -/
theorem Run.commands {commands : List Command} (h : e.Run s history (.between t)) {u : Snapshot}
    (hcommands : e.performEach commands t = .ok u) :
    ∃ more, e.Run s (history ++ more) (.between u) := by
  refine foldlM_induction (P := fun v => ∃ more, e.Run s (history ++ more) (.between v))
    (fun v c w hv hw => ?_) ⟨[], by rw [List.append_nil]; exact h⟩ hcommands
  obtain ⟨more, hmore⟩ := hv
  obtain ⟨out, hout, rfl⟩ := exists_of_map_eq_ok hw
  have hnext := hmore.does (.command hout)
  rw [List.append_assoc] at hnext
  exact ⟨_, hnext⟩

/-- An activation that is ready after some commands. -/
def readyAfter (e : Engine) (deck : List CardId) (commands : List Command) (source : InstanceId) :
    Option Sequencer := do
  let s ← (e.newGame deck).toOption
  let t ← (e.performEach commands s).toOption
  let a ← (e.activate t source .activation).toOption
  match a with
  | .ready q => some q
  | .refused _ => none

theorem exists_run_of_readyAfter {deck : List CardId} {commands : List Command}
    {source : InstanceId} (h : e.readyAfter deck commands source = some q) :
    ∃ s history, e.newGame deck = .ok s ∧ e.Run s history (.during q) := by
  obtain ⟨s, hopening, h⟩ := Option.bind_eq_some_iff.mp h
  obtain ⟨t, hcommands, h⟩ := Option.bind_eq_some_iff.mp h
  obtain ⟨a, hactivate, h⟩ := Option.bind_eq_some_iff.mp h
  cases a with
  | refused => cases h
  | ready =>
    cases h
    obtain ⟨history, hhistory⟩ := Run.start.commands (eq_ok_of_toOption hcommands)
    exact ⟨s, _, eq_ok_of_toOption hopening,
      hhistory.does (.activate (eq_ok_of_toOption hactivate))⟩

end Engine

/-! ## What every step of an activation keeps -/

section Lawful

variable {R : Snapshot → Snapshot → Prop} {s : Snapshot} {q : Sequencer}

/-- In the middle of an activation, the relation holds across its steps and what triggers answer,
and from the snapshot it began with to the one at hand. -/
def Moment.Lawful (R : Snapshot → Snapshot → Prop) : Moment → Prop
  | between _ => True
  | during q => ∃ s, q.Lawful R s

variable (hrefl : ∀ s, R s s) (htrans : ∀ {s t u}, R s t → R t u → R s u)

namespace Sequencer

include hrefl htrans

/-- The relation holds across what a visit or a choice does. -/
theorem Lawful.advances (h : q.Lawful R s) {q' : Sequencer} (hadvances : q.Advances q') :
    q'.Lawful R s ∧ R q.state q'.state := by
  have hkeep : ∀ status, ({ q with status := status } : Sequencer).Lawful R s := fun status =>
    ⟨h.steps, h.collector, h.initial, h.state⟩
  cases hadvances with
  | paused status => exact ⟨hkeep status, hrefl _⟩
  | ran status hstep hrun =>
    exact ⟨(hkeep status).accept htrans hstep hrun,
      h.steps _ (List.mem_of_getElem? hstep) q.state _ _ hrun⟩

end Sequencer

namespace Engine

variable {e : Engine} {history : List Entry} {m m' : Moment} {d : Deed}

/-- What comes of a deed. -/
inductive Upshot (e : Engine) (R : Snapshot → Snapshot → Prop) (m : Moment) (d : Deed)
    (m' : Moment) : Prop
  /-- A command was performed. -/
  | command {c : Command} {out : Outcome} : d = .command c → c.perform e m.state = .ok out →
      m'.state = out.state → Upshot e R m d m'
  /-- An activation went back to the snapshot it began with. -/
  | cancelled {q q' : Sequencer} {t : Snapshot} : d = .cancel → m = .during q →
      q.cancel = .ok (q', .cancelled t) → R m'.state m.state → Upshot e R m d m'
  /-- The relation holds. -/
  | related : (∀ c, d ≠ .command c) → R m.state m'.state → Upshot e R m d m'

include hrefl htrans

/-- **What a deed does to a lawful moment.** -/
theorem Does.upshot (hactivate : ∀ s source category q,
      e.activate s source category = .ok (.ready q) → q.Lawful R s)
    (h : e.Does m d m') (hm : m.Lawful R) : m'.Lawful R ∧ e.Upshot R m d m' := by
  cases h with
  | command hperform => exact ⟨trivial, .command rfl hperform rfl⟩
  | refusedCommand | refusedActivation =>
    exact ⟨trivial, .related (by rintro c ⟨⟩) (hrefl _)⟩
  | activate hready =>
    have hlawful := hactivate _ _ _ _ hready
    obtain ⟨effect, -, -, rfl⟩ := activate_eq_ready_iff.mp hready
    exact ⟨⟨_, hlawful⟩, .related (by rintro c ⟨⟩) (hrefl _)⟩
  | visit =>
    obtain ⟨s, hm⟩ := hm
    obtain ⟨hlawful, hrelated⟩ := hm.advances hrefl htrans (Sequencer.advances_visit _)
    exact ⟨⟨s, hlawful⟩, .related (by rintro c ⟨⟩) hrelated⟩
  | @choose q i request step chosen _ hstep =>
    obtain ⟨s, hm⟩ := hm
    obtain ⟨hlawful, hrelated⟩ :=
      hm.advances hrefl htrans (Sequencer.advances_execute hstep (.running q.cursor) chosen)
    exact ⟨⟨s, hlawful⟩, .related (by rintro c ⟨⟩) hrelated⟩
  | @cancel q q' t hcancel =>
    obtain ⟨s, hm⟩ := hm
    obtain ⟨-, rfl⟩ := Sequencer.eq_of_cancel hcancel
    have hback : R q.initial q.state := hm.initial ▸ hm.state
    exact ⟨⟨s, hm.steps, hm.collector, hm.initial, hm.initial ▸ hrefl _⟩,
      .cancelled rfl rfl hcancel hback⟩
  | leave => exact ⟨trivial, .related (by rintro c ⟨⟩) (hrefl _)⟩

/-- A run comes only to lawful moments. -/
theorem Run.lawful (hactivate : ∀ s source category q,
      e.activate s source category = .ok (.ready q) → q.Lawful R s)
    (h : e.Run s history m) : m.Lawful R := by
  induction h with
  | start => trivial
  | does _ hdoes ih => exact (hdoes.upshot hrefl htrans hactivate ih).1

end Engine

end Lawful

/-! ## Engines that keep to a relation -/

namespace Engine

variable {e : Engine} {R : Snapshot → Snapshot → Prop} {s : Snapshot} {q : Sequencer}

/-- What effects do once the source is in play, what triggers answer, and what rules put in the
place of a destruction, keep to a relation. -/
structure Abides (e : Engine) (R : Snapshot → Snapshot → Prop) : Prop where
  effects : ∀ category, ∀ effect ∈ (e.effects.ofCategory category).values, ∀ s source,
    ∀ step ∈ effect.body s source, step.Respects R
  rules : e.book.Replaces R
  triggers : e.book.collect.Respects R

/-- An engine of ordinary make keeps to whatever handling cards and life does. -/
theorem Ordinary.abides (h : e.Ordinary) (hhandles : ∀ {s t}, Handles s t → R s t) :
    e.Abides R where
  effects := fun category effect heffect s source step hstep =>
    (h.effects category effect heffect s source step hstep).respects.mono hhandles
  rules := h.replaces_handles.mono hhandles
  triggers := fun s event step hstep => (h.respects_collect s event step hstep).mono hhandles

/-- **Activations keep to a relation** that the engine keeps to, if handling cards and life and
marking a use do. -/
theorem Abides.lawful (he : e.Abides R) (htrans : ∀ {s t u}, R s t → R t u → R s u)
    (hhandles : ∀ {s t}, Handles s t → R s t)
    (hmark : ∀ s source effect once, R s (ActivationTemplate.mark s source effect once))
    {source : InstanceId} {category : EffectCategory}
    (h : e.activate s source category = .ok (.ready q)) : q.Lawful R s := by
  obtain ⟨card, effect, hfind, hget, -, rfl⟩ := exists_effect_of_activate h
  have hbody := he.effects category effect (Registry.mem_values_of_get hget) s source
  refine ⟨?_, he.triggers, rfl, hhandles .refl⟩
  change ∀ step ∈ effect.steps s source, step.Respects R
  rw [effect.steps_eq hfind, effect.resolutionSteps_eq, List.forall_mem_cons, List.forall_mem_cons,
    List.forall_mem_cons, List.forall_mem_append]
  refine ⟨fun s chosen out hrun => ?_, (Step.Prebuilt.notify _ _).respects.mono hhandles,
    (ActivationTemplate.announce_respects _ _ _ _).mono hhandles, hbody, fun step hstep => ?_⟩
  · obtain ⟨u, hentered, hmarked⟩ := ActivationTemplate.exists_handles_of_activate hrun
    rw [hmarked]
    exact htrans (hhandles hentered) (hmark u source effect.id effect.once)
  · split at hstep
    · obtain rfl := List.mem_singleton.mp hstep
      exact (Step.Prebuilt.sendToGraveyard source).respects.mono hhandles
    · cases hstep

end Engine

end SoloDuel
