import SoloDuel.Proofs.Engine.Commands
/-!
# Within a turn

What is done between two starts of a turn adds marks of use and takes none away.

* `Snapshot.SameTurn` — no turn has started and no mark has been taken away.
* `Snapshot.Handles.sameTurn`, `sameTurn_mark` — handling cards and life, and marking.
* `Snapshot.advanceTo_eq` — the snapshot in which a phase is reached.
* `Snapshot.Advanced` — what going through the phases does; `advanced_of_advances` says so.
* `Engine.sameTurn_of_command` — a command after which the turn is the same.
-/

namespace SoloDuel

/-- The place of a phase in its turn. -/
def Phase.place : Phase → Nat
  | draw => 0
  | standby => 1
  | main => 2
  | ending => 3

namespace Snapshot

variable {s t u : Snapshot}

/-- The turn is the same, and no mark of use has been taken away. -/
structure SameTurn (s t : Snapshot) : Prop where
  turn : t.turn = s.turn
  cards : s.usedCards ⊆ t.usedCards
  effects : s.usedEffects ⊆ t.usedEffects

theorem SameTurn.refl (s : Snapshot) : SameTurn s s := ⟨rfl, fun _ h => h, fun _ h => h⟩

theorem SameTurn.trans (h₁ : SameTurn s t) (h₂ : SameTurn t u) : SameTurn s u :=
  ⟨h₂.turn.trans h₁.turn, List.Subset.trans h₁.cards h₂.cards,
    List.Subset.trans h₁.effects h₂.effects⟩

/-- Handling cards and life stays in the turn and makes no mark. -/
theorem Handles.sameTurn (h : Handles s t) : SameTurn s t := by
  rw [h.eq]
  exact ⟨rfl, fun _ h => h, fun _ h => h⟩

/-- Deciding a duel and using up a normal summon stay in the turn and make no mark. -/
theorem covers_sameTurn : Covers SameTurn where
  trans := .trans
  handles := Handles.sameTurn
  summonUsed := fun _ => ⟨rfl, fun _ h => h, fun _ h => h⟩
  decided := fun _ _ _ _ => ⟨rfl, fun _ h => h, fun _ h => h⟩

/-! ## Going through the phases -/

/-- The snapshot is in another phase, perhaps of the next turn. -/
inductive Advanced (s : Snapshot) : Snapshot → Prop
  | within (phase : Phase) : Advanced s { s with phase := phase }
  | begun (phase : Phase) : Advanced s { s.beginTurn with phase := phase }

theorem advanced_advancePhase (s : Snapshot) : Advanced s s.advancePhase := by
  unfold advancePhase
  split
  · exact .within s.phase
  · split
    · exact .begun _
    · exact .within _

/-- **Going to a phase.** Within a turn a later phase is reached, and an earlier one after a single
start of a turn. -/
theorem advanceTo_eq (h : s.isTerminal = false) (target : Phase) :
    s.advanceTo target =
      if target.place < s.phase.place then { s.beginTurn with phase := target }
      else { s with phase := target } := by
  obtain ⟨config, board, life, phase, turn, chain, result, left, cards, effects, rng⟩ := s
  have hopen : result.isTerminal = false := h
  cases phase <;> cases target <;>
    simp [advanceTo, advanceWithin, advancePhase, isTerminal, beginTurn, Phase.endsTurn,
      Phase.next, Phase.place, hopen]

theorem advanced_advanceTo (s : Snapshot) (target : Phase) : Advanced s (s.advanceTo target) := by
  cases hover : s.isTerminal with
  | true =>
    have hsame : s.advanceTo target = s := if_pos (.inr hover)
    rw [hsame]
    exact .within s.phase
  | false =>
    rw [advanceTo_eq hover]
    split
    · exact .begun target
    · exact .within target

/-- **Going through the phases** starts one turn at most. -/
theorem advanced_of_advances {e : Engine} {c : Command} {out : Outcome} (hc : c.advances = true)
    (h : c.perform e s = .ok out) : Advanced s out.state := by
  cases c with
  | advancePhase =>
    cases h
    exact advanced_advancePhase s
  | advanceTo target =>
    cases h
    exact advanced_advanceTo s target
  | _ => cases hc

/-- The next turn has another number, also where numbers come around. -/
theorem turn_beginTurn_ne (s : Snapshot) : s.beginTurn.turn ≠ s.turn := by
  change s.turn + 1 ≠ s.turn
  simp

/-- Under the same number of the turn no turn was started. -/
theorem Advanced.sameTurn (h : Advanced s t) (hturn : t.turn = s.turn) : SameTurn s t := by
  cases h with
  | within => exact ⟨rfl, fun _ h => h, fun _ h => h⟩
  | begun => exact absurd hturn s.turn_beginTurn_ne

end Snapshot

open Snapshot

namespace ActivationTemplate

theorem sameTurn_mark (s : Snapshot) (source : InstanceId) (effect : EffectId)
    (once : OncePerTurn) : SameTurn s (mark s source effect once) := by
  cases once with
  | unlimited => exact ⟨rfl, fun _ h => h, fun _ h => h⟩
  | card => exact ⟨rfl, fun _ h => List.mem_insert_of_mem h, fun _ h => h⟩
  | copy => exact ⟨rfl, fun _ h => h, fun _ h => List.mem_insert_of_mem h⟩

end ActivationTemplate

namespace Engine

variable {e : Engine} {s : Snapshot} {out : Outcome}

/-- **A command after which the turn is the same takes no mark away**, given that what the rules put
in the place of a destruction does not. -/
theorem sameTurn_of_command (hbook : e.book.Replaces SameTurn) {c : Command}
    (h : c.perform e s = .ok out) (hturn : out.state.turn = s.turn) : SameTurn s out.state := by
  cases hc : c.advances with
  | false => exact of_command covers_sameTurn hbook hc h
  | true => exact (advanced_of_advances hc h).sameTurn hturn

end Engine

end SoloDuel
