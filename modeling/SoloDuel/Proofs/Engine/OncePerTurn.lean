import SoloDuel.Proofs.Engine.Ordinary
import SoloDuel.Proofs.Engine.Reachable
import SoloDuel.Proofs.Engine.Turns
import SoloDuel.Proofs.Sequencer.Protocol
/-!
# Once per turn

The mark of a use is made by the first step of an activation and looked at when the next one begins.
In between lie the rest of the activation, other activations, and commands in any order, some of
which take the source off the field or out of the hand and back. Within a turn no effect is used
more often than its restriction allows all the same.

* `Engine.Stage`, `Engine.Move`, `Engine.Turn` — what is played between two starts of a turn.
* `Use.limit?`, `Limit.IsReached` — what a use counts towards, and the mark that says it was used.
* `Stage.Accounted` — every limit a use counted towards is marked; `Accounted.move` is the step.
* `Engine.once_per_turn` — no limit is counted towards twice in an engine of ordinary make;
  `Engine.forgetful_plays_two` — a rule or a trigger that is not made so can have one counted
  towards twice.
-/

namespace SoloDuel

open Snapshot

/-! ## Uses and their limits -/

/-- An activation that got past its first step. -/
structure Use where
  effect : CardEffect
  source : InstanceId

/-- What may be done once in a turn. -/
inductive Limit where
  /-- Using an effect of a species, whichever copy does it. -/
  | card (card : CardId)
  /-- Using an effect of one copy. -/
  | copy (source : InstanceId) (effect : EffectId)
  deriving DecidableEq

/-- The limit a use counts towards, if its effect is restricted. -/
def Use.limit? (use : Use) : Option Limit :=
  match use.effect.once with
  | .unlimited => none
  | .card => some (.card use.effect.card)
  | .copy => some (.copy use.source use.effect.id)

theorem Use.mem_limit?_iff {use : Use} {limit : Limit} :
    limit ∈ use.limit? ↔ (use.effect.once = .card ∧ limit = .card use.effect.card) ∨
      (use.effect.once = .copy ∧ limit = .copy use.source use.effect.id) := by
  unfold Use.limit?
  cases use.effect.once <;> simp [eq_comm]

namespace Limit

variable {s t : Snapshot} {limit : Limit} {use : Use}

/-- The snapshot has a mark that the limit is reached. -/
def IsReached (s : Snapshot) : Limit → Prop
  | card c => c ∈ s.usedCards
  | copy source effect => (source, effect) ∈ s.usedEffects

theorem IsReached.mono (h : limit.IsReached s) (hst : SameTurn s t) : limit.IsReached t := by
  cases limit with
  | card c => exact hst.cards h
  | copy source effect => exact hst.effects h

/-- A use that the template does not refuse counts towards a limit that is not reached. -/
theorem not_isReached (h : ActivationTemplate.isUsedUp s use.source use.effect.id
    use.effect.once = false) : ∀ limit ∈ use.limit?, ¬ limit.IsReached s := by
  intro limit hlimit hreached
  rcases Use.mem_limit?_iff.mp hlimit with ⟨honce, rfl⟩ | ⟨honce, rfl⟩
  all_goals
    rw [honce] at h
    exact Bool.eq_false_iff.mp h (List.contains_iff_mem.mpr hreached)

/-- The mark of a use says that its limit is reached. -/
theorem isReached_mark (s : Snapshot) (use : Use) : ∀ limit ∈ use.limit?,
    limit.IsReached (ActivationTemplate.mark s use.source use.effect.id use.effect.once) := by
  intro limit hlimit
  rcases Use.mem_limit?_iff.mp hlimit with ⟨honce, rfl⟩ | ⟨honce, rfl⟩
  all_goals
    rw [honce]
    exact List.mem_insert_self

end Limit

/-- No limit was counted towards twice, and every one that was is marked as reached. -/
structure Counted (uses : List Use) (s : Snapshot) : Prop where
  nodup : (uses.filterMap Use.limit?).Nodup
  reached : ∀ limit ∈ uses.filterMap Use.limit?, limit.IsReached s

namespace Counted

variable {uses : List Use} {use : Use} {s t : Snapshot}

theorem nil (s : Snapshot) : Counted [] s := ⟨List.nodup_nil, by simp⟩

theorem mono (h : Counted uses s) (hst : SameTurn s t) : Counted uses t :=
  ⟨h.nodup, fun limit hlimit => (h.reached limit hlimit).mono hst⟩

/-- One more use, towards a limit that was not reached before it and is afterwards. -/
theorem concat (h : Counted uses s) (hst : SameTurn s t)
    (hbefore : ∀ limit ∈ use.limit?, ¬ limit.IsReached s)
    (hafter : ∀ limit ∈ use.limit?, limit.IsReached t) : Counted (uses ++ [use]) t := by
  cases hlimit : use.limit? with
  | none =>
    have hsame : (uses ++ [use]).filterMap Use.limit? = uses.filterMap Use.limit? := by
      simp [List.filterMap_append, hlimit]
    refine ⟨?_, ?_⟩ <;> rw [hsame]
    · exact h.nodup
    · exact (h.mono hst).reached
  | some limit =>
    have hmore : (uses ++ [use]).filterMap Use.limit? = uses.filterMap Use.limit? ++ [limit] := by
      simp [List.filterMap_append, hlimit]
    have hfresh : limit ∉ uses.filterMap Use.limit? := fun hmem =>
      hbefore limit hlimit (h.reached limit hmem)
    refine ⟨?_, ?_⟩ <;> rw [hmore]
    · rw [← List.concat_eq_append]
      exact h.nodup.concat hfresh
    · intro other hother
      rcases List.mem_append.mp hother with hother | hother
      · exact (h.mono hst).reached other hother
      · obtain rfl := List.mem_singleton.mp hother
        exact hafter other hlimit

end Counted

/-! ## An activation under way -/

/-- Whether the answer says that the run was cancelled. -/
def SequencerAnswer.isCancelled : SequencerAnswer → Bool
  | .cancelled _ => true
  | _ => false

namespace Sequencer

variable {use : Use} {q q' : Sequencer}

/-- The first step marks the use, no other step takes a mark away, and past the first step the mark
is there. -/
structure Charging (use : Use) (q : Sequencer) : Prop where
  steps : ∃ first rest, q.steps = first :: rest ∧
    (first.Respects fun s t => SameTurn s t ∧ ∀ limit ∈ use.limit?, limit.IsReached t) ∧
    ∀ step ∈ rest, step.Respects SameTurn
  collector : q.collector.Respects SameTurn
  reached : 0 < q.cursor → ∀ limit ∈ use.limit?, limit.IsReached q.state

/-- A step that runs at the cursor takes no mark away, and the limit is reached after it. -/
theorem Charging.sameTurn (h : Charging use q) {step : Step} {chosen : List InstanceId}
    {out : Outcome} (hstep : q.steps[q.cursor]? = some step)
    (hrun : step.run q.state chosen = .ok out) :
    SameTurn q.state out.state ∧ ∀ limit ∈ use.limit?, limit.IsReached out.state := by
  obtain ⟨first, rest, hsteps, hfirst, hrest⟩ := h.steps
  rw [hsteps] at hstep
  cases hcursor : q.cursor with
  | zero =>
    rw [hcursor, List.getElem?_cons_zero] at hstep
    cases hstep
    exact hfirst _ _ _ hrun
  | succ place =>
    rw [hcursor, List.getElem?_cons_succ] at hstep
    have hsame := hrest step (List.mem_of_getElem? hstep) _ _ _ hrun
    have hpast : 0 < q.cursor := by omega
    exact ⟨hsame, fun limit hlimit => (h.reached hpast limit hlimit).mono hsame⟩

theorem Charging.accept (h : Charging use q) {step : Step} {chosen : List InstanceId}
    {out : Outcome} (hstep : q.steps[q.cursor]? = some step)
    (hrun : step.run q.state chosen = .ok out) : Charging use (q.accept out) where
  steps := by
    obtain ⟨first, rest, hsteps, hfirst, hrest⟩ := h.steps
    refine ⟨first, rest.take q.cursor ++ out.events.flatMap (q.collector out.state) ++
      rest.drop q.cursor, ?_, hfirst, fun step hstep => ?_⟩
    · simp [Sequencer.accept, hsteps]
    · rcases List.mem_append.mp hstep with hstep | hstep
      · rcases List.mem_append.mp hstep with hstep | hstep
        · exact hrest step (List.mem_of_mem_take hstep)
        · obtain ⟨event, -, hstep⟩ := List.mem_flatMap.mp hstep
          exact h.collector _ event step hstep
      · exact hrest step (List.mem_of_mem_drop hstep)
  collector := h.collector
  reached := fun _ => (h.sameTurn hstep hrun).2

/-- **A call that does not cancel takes no mark away** and leaves the activation under way. -/
theorem Charging.of_answers {c : SequencerCall} {a : SequencerAnswer} (h : Charging use q)
    (ha : q.Answers c q' a) (hnot : a.isCancelled = false) :
    Charging use q' ∧ q'.initial = q.initial ∧ SameTurn q.state q'.state := by
  refine ha.preserves (P := fun r => Charging use r ∧ r.initial = q.initial ∧
    SameTurn q.state r.state) ?_ ?_ ⟨h, rfl, .refl q.state⟩ ?_
  · rintro r status ⟨hr, hinitial, hsame⟩
    exact ⟨⟨hr.steps, hr.collector, hr.reached⟩, hinitial, hsame⟩
  · rintro r step chosen out ⟨hr, hinitial, hsame⟩ hstep hrun
    exact ⟨hr.accept hstep hrun, hinitial, hsame.trans (hr.sameTurn hstep hrun).1⟩
  · rintro rfl
    cases hnot

end Sequencer

/-! ## What is played in a turn -/

namespace Engine

/-- Where a turn has got to. -/
inductive Stage where
  /-- Between two plays. -/
  | between (s : Snapshot)
  /-- In the middle of an activation. -/
  | during (use : Use) (q : Sequencer)

namespace Stage

/-- The snapshot at hand. -/
def state : Stage → Snapshot
  | between s => s
  | during _ q => q.state

/-- The use that is under way: that of an activation past its first step. -/
def pending : Stage → List Use
  | between _ => []
  | during use q => if 0 < q.cursor then [use] else []

end Stage

/-- What can be played next without starting a turn, cancelling apart, and the uses it completes. -/
inductive Move (e : Engine) : Stage → List Use → Stage → Prop
  /-- A command acts on the snapshot at hand. -/
  | command {s : Snapshot} {c : Command} {out : Outcome} : c.perform e s = .ok out →
      out.state.turn = s.turn → Move e (.between s) [] (.between out.state)
  /-- An activation begins. -/
  | begin {s : Snapshot} {source : InstanceId} {category : EffectCategory} {effect : CardEffect}
      {q : Sequencer} : e.effectOf s source category = .ok effect →
      e.activate s source category = .ok (.ready q) →
      Move e (.between s) [] (.during ⟨effect, source⟩ q)
  /-- A call is made to the sequencer of the activation. -/
  | call {use : Use} {q q' : Sequencer} {fuel : Nat} {c : SequencerCall} {a : SequencerAnswer} :
      q.call fuel c = .ok (some (q', a)) → a.isCancelled = false →
      Move e (.during use q) [] (.during use q')
  /-- The activation is complete or has failed; its last snapshot is the one to go on with. -/
  | finish {use : Use} {q : Sequencer} : q.status.hasEnded = true →
      Move e (.during use q) (Stage.during use q).pending (.between q.state)

/-- What has been played since a snapshot within one turn: the uses that were completed, and where
the turn has got to. A cancelled activation completes no use, and the turn goes on with the snapshot
that the sequencer hands back. -/
inductive Turn (e : Engine) (s : Snapshot) : List Use → Stage → Prop
  | start : Turn e s [] (.between s)
  | move {uses completed : List Use} {x y : Stage} : Turn e s uses x → Move e x completed y →
      Turn e s (uses ++ completed) y
  | cancel {uses : List Use} {use : Use} {q q' : Sequencer} {fuel : Nat} {t : Snapshot} :
      Turn e s uses (.during use q) → q.call fuel .cancel = .ok (some (q', .cancelled t)) →
      Turn e s uses (.between t)

/-! ## The count -/

/-- Every limit that a completed use counted towards is marked as reached. In the middle of an
activation this already holds of the snapshot it began with, to which cancelling goes back; its own
limit was not reached there. -/
def Stage.Accounted (uses : List Use) : Stage → Prop
  | .between s => Counted uses s
  | .during use q => Counted uses q.initial ∧ q.Charging use ∧ SameTurn q.initial q.state ∧
      ∀ limit ∈ use.limit?, ¬ limit.IsReached q.initial

variable {e : Engine} {s : Snapshot} {uses completed : List Use} {x y : Stage}

/-- The use under way can be counted with the others. -/
theorem Stage.Accounted.counted (h : x.Accounted uses) : Counted (uses ++ x.pending) x.state := by
  cases x with
  | between s =>
    rw [Stage.pending, List.append_nil]
    exact h
  | during use q =>
    obtain ⟨hcounted, hcharging, hsame, hbefore⟩ := h
    by_cases hpast : 0 < q.cursor
    · rw [Stage.pending, if_pos hpast]
      exact hcounted.concat hsame hbefore (hcharging.reached hpast)
    · rw [Stage.pending, if_neg hpast, List.append_nil]
      exact hcounted.mono hsame

/-- A new activation is charged by its first step. -/
theorem charging_of_activate (he : e.Ordinary) {source : InstanceId} {category : EffectCategory}
    {effect : CardEffect} {q : Sequencer} (hof : e.effectOf s source category = .ok effect)
    (h : e.activate s source category = .ok (.ready q)) :
    q.initial = s ∧ q.state = s ∧ q.Charging ⟨effect, source⟩ ∧
      ∀ limit ∈ Use.limit? ⟨effect, source⟩, ¬ limit.IsReached s := by
  obtain ⟨effect', hof', hvalid, rfl⟩ := activate_eq_ready_iff.mp h
  cases hof.symm.trans hof'
  obtain ⟨card, hfind, hget⟩ := effectOf_eq_ok_iff.mp hof
  obtain ⟨rest, hsteps, hrest⟩ :=
    CardEffect.exists_steps_eq (he.effects category effect (Registry.mem_values_of_get hget)) hfind
  have htriggers : e.book.collect.Respects SameTurn := fun s event step hstep =>
    (he.respects_collect s event step hstep).mono Handles.sameTurn
  refine ⟨rfl, rfl, ⟨⟨_, rest, hsteps, ?_, fun step hstep => (hrest step hstep).mono
    Handles.sameTurn⟩, htriggers, fun hpast => absurd hpast (Nat.lt_irrefl 0)⟩, ?_⟩
  · intro s chosen out hrun
    obtain ⟨u, hhandles, hmark⟩ := ActivationTemplate.exists_handles_of_activate hrun
    rw [hmark]
    have hmarked := ActivationTemplate.sameTurn_mark u source effect.id effect.once
    exact ⟨hhandles.sameTurn.trans hmarked, Limit.isReached_mark u ⟨effect, source⟩⟩
  · obtain ⟨⟨⟩, htemplate, -⟩ := bind_eq_ok.mp hvalid
    obtain ⟨-, card, -, -, -, -, -, hunused, -⟩ := ActivationTemplate.of_validate htemplate
    exact Limit.not_isReached hunused

/-- **One move keeps the count and takes no mark away.** -/
theorem Stage.Accounted.move (he : e.Ordinary) (h : x.Accounted uses)
    (hmove : e.Move x completed y) :
    y.Accounted (uses ++ completed) ∧ SameTurn x.state y.state := by
  cases hmove with
  | command hperform hturn =>
    have hsame := sameTurn_of_command (he.replaces_handles.mono Handles.sameTurn) hperform hturn
    rw [List.append_nil]
    exact ⟨Counted.mono h hsame, hsame⟩
  | begin hof hactivate =>
    obtain ⟨hinitial, hstate, hcharging, hbefore⟩ := charging_of_activate he hof hactivate
    rw [List.append_nil]
    refine ⟨⟨hinitial ▸ h, hcharging, ?_, hinitial ▸ hbefore⟩, ?_⟩
    · rw [hinitial, hstate]
      exact .refl _
    · exact hstate ▸ .refl _
  | call hcall hnot =>
    obtain ⟨hcounted, hcharging, hsame, hbefore⟩ := h
    obtain ⟨hcharging', hinitial, hsame'⟩ :=
      hcharging.of_answers (Sequencer.answers_of_call hcall) hnot
    rw [List.append_nil]
    exact ⟨⟨hinitial ▸ hcounted, hcharging', hinitial ▸ hsame.trans hsame', hinitial ▸ hbefore⟩,
      hsame'⟩
  | finish hended => exact ⟨h.counted, .refl _⟩

/-- The count holds throughout a turn. -/
theorem Turn.accounted (he : e.Ordinary) (h : e.Turn s uses x) : x.Accounted uses := by
  induction h with
  | start => exact Counted.nil s
  | move _ hmove ih => exact (ih.move he hmove).1
  | cancel _ hcancel ih =>
    obtain ⟨-, rfl, -⟩ := Sequencer.cancel_eq_of_cancelled hcancel
    exact ih.1

/-- **Once per turn.** In an engine of ordinary make, whatever is played within a turn, in whatever
order: among all activations that got past their first step and were not cancelled, the one under
way included, at most one used an effect that all copies of its card may use once, and at most one
used an effect that each copy may use once for each copy. Nothing but cancelling takes a mark of use
away. -/
theorem once_per_turn (he : e.Ordinary) (h : e.Turn s uses x) :
    ((uses ++ x.pending).filterMap Use.limit?).Nodup ∧
      ∀ completed y, e.Move x completed y →
        x.state.usedCards ⊆ y.state.usedCards ∧ x.state.usedEffects ⊆ y.state.usedEffects := by
  have haccounted := h.accounted he
  refine ⟨haccounted.counted.nodup, fun completed y hmove => ?_⟩
  obtain ⟨-, hsame⟩ := haccounted.move he hmove
  exact ⟨hsame.cards, hsame.effects⟩

/-! ## Turns played out -/

/-- A command within a turn goes on with it. -/
theorem Turn.command {t : Snapshot} {c : Command} {out : Outcome} (h : e.Turn s uses (.between t))
    (hperform : c.perform e t = .ok out) (hturn : out.state.turn = t.turn) :
    e.Turn s uses (.between out.state) := by
  have hmove := h.move (.command hperform hturn)
  rw [List.append_nil] at hmove
  exact hmove

/-- Plays an activation out that asks nothing: the use, and the snapshot it leads to. -/
def playOut (e : Engine) (source : InstanceId) (s : Snapshot) : Option (Use × Snapshot) := do
  let effect ← (e.effectOf s source .activation).toOption
  match ← (e.activate s source .activation).toOption with
  | .refused _ => none
  | .ready q =>
    let (q', a) ← (q.call 20 .start).toOption.join
    if q'.status.hasEnded = true ∧ a.isCancelled = false ∧ 0 < q'.cursor then
      some (⟨effect, source⟩, q'.state)
    else none

/-- An activation that is played out goes on with the turn, and its use is completed. -/
theorem Turn.playOut {t u : Snapshot} {source : InstanceId} {use : Use}
    (h : e.Turn s uses (.between t)) (hplay : e.playOut source t = some (use, u)) :
    e.Turn s (uses ++ [use]) (.between u) := by
  obtain ⟨effect, hof, hplay⟩ := Option.bind_eq_some_iff.mp hplay
  obtain ⟨a, hactivate, hplay⟩ := Option.bind_eq_some_iff.mp hplay
  cases a with
  | refused => cases hplay
  | ready q =>
    obtain ⟨⟨q', a⟩, hcall, hplay⟩ := Option.bind_eq_some_iff.mp hplay
    obtain ⟨⟨hended, hnot, hpast⟩, heq⟩ := Option.ite_none_right_eq_some.mp hplay
    cases heq
    have hbegun := h.move (.begin (eq_ok_of_toOption hof) (eq_ok_of_toOption hactivate))
    have hcalled := hbegun.move
      (.call (eq_ok_of_toOption (Option.join_eq_some_iff.mp hcall)) hnot)
    have hfinished := hcalled.move (.finish hended)
    have hpending : (Stage.during ⟨effect, source⟩ q').pending = [⟨effect, source⟩] :=
      if_pos hpast
    rw [List.append_nil, List.append_nil, hpending] at hfinished
    exact hfinished

def fourDemises : List CardId := List.replicate 4 Passcode.cardOfDemise

/-- A turn in which one of four copies of Card of Demise is played. -/
theorem once_per_turn_with_card_of_demise :
    (Library.engine unshuffled).Ordinary ∧ ∃ s use t,
      (Library.engine unshuffled).Turn s [use] (.between t) ∧
      use.limit? = some (.card Passcode.cardOfDemise) ∧
      (([use] ++ Stage.pending (.between t)).filterMap Use.limit?).Nodup ∧
      ∀ completed y, (Library.engine unshuffled).Move (.between t) completed y →
        t.usedCards ⊆ y.state.usedCards ∧ t.usedEffects ⊆ y.state.usedEffects := by
  have hrun : (((Library.engine unshuffled).newGame fourDemises).toOption.bind fun s =>
      ((Library.engine unshuffled).playOut (Board.entryId 3) (s.advanceTo .main)).map fun r =>
        r.1.limit?) = some (some (.card Passcode.cardOfDemise)) := by
    decide +kernel
  obtain ⟨s, hopening, hrun⟩ := Option.bind_eq_some_iff.mp hrun
  obtain ⟨⟨use, t⟩, hplay, hlimit⟩ := Option.map_eq_some_iff.mp hrun
  have hturn : (Library.engine unshuffled).Turn (s.advanceTo .main) [use] (.between t) :=
    Turn.start.playOut hplay
  have hordinary : (Library.engine unshuffled).Ordinary :=
    (filled_library (fun _ => False) unshuffled).stocked.ordinary
  exact ⟨hordinary, _, use, t, hturn, hlimit, once_per_turn hordinary hturn⟩

/-! ## Rules and triggers that forget -/

/-- The snapshot without marks of use. -/
def forgotten (s : Snapshot) : Snapshot := { s with usedCards := [], usedEffects := [] }

/-- An engine with a rule that forgets. -/
def forgetful : Engine := meddled unshuffled forgotten

def eightDemises : List CardId := List.replicate 8 Passcode.cardOfDemise

/-- A copy of Card of Demise is played, another is set and survives its destruction, and a third is
played in the same turn. -/
theorem exists_two_uses_of_meddled :
    ∃ s₀ first second t u v, forgetful.newGame eightDemises = .ok s₀ ∧
      forgetful.Turn (s₀.advanceTo .main) [first] (.between t) ∧
      forgetful.Move (.between t) [] (.between u) ∧ ¬ t.usedCards ⊆ u.usedCards ∧
      forgetful.Turn (s₀.advanceTo .main) [first, second] (.between v) ∧
      ¬ ([first, second].filterMap Use.limit?).Nodup := by
  have hrun : ((forgetful.newGame eightDemises).toOption.bind fun s₀ =>
      (forgetful.playOut (Board.entryId 7) (s₀.advanceTo .main)).bind fun r₁ =>
        (Command.perform forgetful r₁.2 (.setSpellTrap (Board.entryId 6))).toOption.bind fun set =>
          (Command.perform forgetful set.state .settle).toOption.bind fun settled =>
            (forgetful.playOut (Board.entryId 5) settled.state).map fun r₂ =>
              ((r₁.1.limit?, r₂.1.limit?), (r₁.2.turn, set.state.turn, settled.state.turn),
                set.state.usedCards, settled.state.usedCards)) =
      some ((some (.card Passcode.cardOfDemise), some (.card Passcode.cardOfDemise)), (1, 1, 1),
        [Passcode.cardOfDemise], []) := by
    decide +kernel
  obtain ⟨s₀, hopening, hrun⟩ := Option.bind_eq_some_iff.mp hrun
  obtain ⟨⟨first, s₁⟩, hfirst, hrun⟩ := Option.bind_eq_some_iff.mp hrun
  obtain ⟨set, hset, hrun⟩ := Option.bind_eq_some_iff.mp hrun
  obtain ⟨settled, hsettled, hrun⟩ := Option.bind_eq_some_iff.mp hrun
  obtain ⟨⟨second, v⟩, hsecond, heq⟩ := Option.map_eq_some_iff.mp hrun
  simp only [Prod.mk.injEq] at heq
  obtain ⟨⟨hlimit₁, hlimit₂⟩, ⟨hturn₁, hturn₂, hturn₃⟩, hmarked, hforgotten⟩ := heq
  have hturn : forgetful.Turn (s₀.advanceTo .main) [first] (.between set.state) :=
    (Turn.start.playOut hfirst).command (eq_ok_of_toOption hset) (hturn₂.trans hturn₁.symm)
  have hmove : forgetful.Move (.between set.state) [] (.between settled.state) :=
    .command (eq_ok_of_toOption hsettled) (hturn₃.trans hturn₂.symm)
  refine ⟨s₀, first, second, set.state, settled.state, v, eq_ok_of_toOption hopening, hturn,
    hmove, ?_, ?_, ?_⟩
  · rw [hmarked, hforgotten]
    decide
  · exact (hturn.command (eq_ok_of_toOption hsettled) (hturn₃.trans hturn₂.symm)).playOut hsecond
  · simp [hlimit₁, hlimit₂]

/-- Two copies of Card of Demise are played one after the other. -/
theorem exists_two_uses_of_haunted :
    ∃ s₀ first second v, (haunted unshuffled forgotten).newGame eightDemises = .ok s₀ ∧
      (haunted unshuffled forgotten).Turn (s₀.advanceTo .main) [first, second] (.between v) ∧
      ¬ ([first, second].filterMap Use.limit?).Nodup := by
  have hrun : (((haunted unshuffled forgotten).newGame eightDemises).toOption.bind fun s₀ =>
      ((haunted unshuffled forgotten).playOut (Board.entryId 7) (s₀.advanceTo .main)).bind fun r₁ =>
        ((haunted unshuffled forgotten).playOut (Board.entryId 6) r₁.2).map fun r₂ =>
          (r₁.1.limit?, r₂.1.limit?)) =
      some (some (.card Passcode.cardOfDemise), some (.card Passcode.cardOfDemise)) := by
    decide +kernel
  obtain ⟨s₀, hopening, hrun⟩ := Option.bind_eq_some_iff.mp hrun
  obtain ⟨⟨first, s₁⟩, hfirst, hrun⟩ := Option.bind_eq_some_iff.mp hrun
  obtain ⟨⟨second, v⟩, hsecond, heq⟩ := Option.map_eq_some_iff.mp hrun
  obtain ⟨hlimit₁, hlimit₂⟩ := Prod.mk.inj heq
  refine ⟨s₀, first, second, v, eq_ok_of_toOption hopening, ?_, by simp [hlimit₁, hlimit₂]⟩
  exact (Turn.start.playOut hfirst).playOut hsecond

/-- **A rule or a trigger can take marks of use away.** Although all effects are made of prebuilt
steps, Card of Demise is played twice in a turn: with a rule that forgets, and with a trigger. -/
theorem forgetful_plays_two :
    ((∀ category, ∀ effect ∈ (forgetful.effects.ofCategory category).values, effect.Prebuilt) ∧
      ∃ s₀ first second t u v, forgetful.newGame eightDemises = .ok s₀ ∧
        forgetful.Turn (s₀.advanceTo .main) [first] (.between t) ∧
        forgetful.Move (.between t) [] (.between u) ∧ ¬ t.usedCards ⊆ u.usedCards ∧
        forgetful.Turn (s₀.advanceTo .main) [first, second] (.between v) ∧
        ¬ ([first, second].filterMap Use.limit?).Nodup) ∧
      (∀ category, ∀ effect ∈ ((haunted unshuffled forgotten).effects.ofCategory category).values,
        effect.Prebuilt) ∧
      ∃ s₀ first second v, (haunted unshuffled forgotten).newGame eightDemises = .ok s₀ ∧
        (haunted unshuffled forgotten).Turn (s₀.advanceTo .main) [first, second] (.between v) ∧
        ¬ ([first, second].filterMap Use.limit?).Nodup :=
  ⟨⟨fun _ _ => prebuilt_of_meddled, exists_two_uses_of_meddled⟩,
    fun _ _ => prebuilt_of_haunted, exists_two_uses_of_haunted⟩

end Engine

end SoloDuel
