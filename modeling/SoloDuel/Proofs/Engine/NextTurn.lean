import Mathlib.Data.List.Forall2
import Mathlib.Data.Option.Defs
import SoloDuel.Proofs.Engine.Turns
import SoloDuel.Proofs.Sequencer.Protocol
/-!
# What outlasts a turn

The start of a turn goes over every card on the field, but takes away only what was noted for the
turn before. The cards stay in their places, lie the same way and have the same counters; life, the
chain, the result and the generator are not touched.

* `Snapshot.Persists` — what is the same at another moment; `persists_beginTurn` says that starting
  a turn keeps it.
* `Snapshot.Unspent` — nothing has been noted for the turn; `unspent_beginTurn` says that a turn
  starts so.
* `Snapshot.advanceTo_exact` — going to a phase, in the same turn or in the next.
-/

namespace SoloDuel

/-- The card lies the same way and has the same counters; its notes of the turn may differ. -/
structure FieldState.Persists (f g : FieldState) : Prop where
  face : g.face = f.face
  position : g.position = f.position
  counters : g.counters = f.counters

/-- The same copy in the same zone, which on the field lies the same way. -/
structure CardInstance.Persists (c d : CardInstance) : Prop where
  id : d.id = c.id
  data : d.data = c.data
  location : d.location = c.location
  field : Option.Rel FieldState.Persists c.field d.field

namespace CardInstance

theorem Persists.refl (c : CardInstance) : c.Persists c where
  id := rfl
  data := rfl
  location := rfl
  field := by
    cases c.field with
    | none => exact .none
    | some f => exact .some ⟨rfl, rfl, rfl⟩

/-- A copy that forgets its notes of the turn lies as it did. -/
theorem persists_resetForTurn (c : CardInstance) : c.Persists (c.mapField (·.resetForTurn)) where
  id := rfl
  data := rfl
  location := rfl
  field := by
    unfold mapField
    cases c.field with
    | none => exact .none
    | some f => exact .some ⟨rfl, rfl, rfl⟩

end CardInstance

namespace Snapshot

variable {s t : Snapshot}

/-- Another moment of the duel: every card is in the same place of its zone and lies the same way,
and what does not belong to a phase or a turn is the same. -/
structure Persists (s t : Snapshot) : Prop where
  cards : ∀ name, List.Forall₂ CardInstance.Persists (s.zone name) (t.zone name)
  life : t.life = s.life
  result : t.result = s.result
  chain : t.chain = s.chain
  config : t.config = s.config
  rng : t.rng = s.rng

/-- Nothing has been noted for the turn: no effect is used up and no normal summon spent, and no
card on the field is noted as placed or as having activated an effect. -/
structure Unspent (s : Snapshot) : Prop where
  cards : s.usedCards = []
  effects : s.usedEffects = []
  summons : s.normalSummonsLeft = s.config.normalSummonsPerTurn
  field : ∀ name, name.isOnField = true → ∀ c ∈ s.zone name, ∀ f, c.field = some f →
    f.placedThisTurn = false ∧ f.activated = []

/-- Starting a turn goes over the cards on the field only. -/
theorem zone_beginTurn (s : Snapshot) (name : ZoneName) :
    s.beginTurn.zone name =
      if name.isOnField then (s.zone name).map (·.mapField (·.resetForTurn)) else s.zone name := by
  cases name <;> rfl

/-- **Starting a turn leaves every card where it is and as it lies.** -/
theorem persists_beginTurn (s : Snapshot) : s.Persists s.beginTurn where
  cards name := by
    rw [zone_beginTurn]
    split
    · rw [List.forall₂_map_right_iff]
      exact List.forall₂_same.mpr fun c _ => c.persists_resetForTurn
    · exact List.forall₂_same.mpr fun c _ => .refl c
  life := rfl
  result := rfl
  chain := rfl
  config := rfl
  rng := rfl

/-- **A turn starts with nothing noted for it.** -/
theorem unspent_beginTurn (s : Snapshot) : s.beginTurn.Unspent where
  cards := rfl
  effects := rfl
  summons := rfl
  field := by
    intro name hname c hc f hf
    rw [zone_beginTurn, if_pos hname, List.mem_map] at hc
    obtain ⟨d, -, rfl⟩ := hc
    obtain ⟨before, -, rfl⟩ := Option.map_eq_some_iff.mp hf
    exact ⟨rfl, rfl⟩

theorem Persists.refl (s : Snapshot) : s.Persists s :=
  ⟨fun _ => List.forall₂_same.mpr fun c _ => .refl c, rfl, rfl, rfl, rfl, rfl⟩

/-- The phase is no part of what is compared. -/
theorem Persists.withPhase (h : s.Persists t) (phase : Phase) :
    s.Persists { t with phase := phase } :=
  ⟨h.cards, h.life, h.result, h.chain, h.config, h.rng⟩

/-- **Going to a phase.** Unless the duel is over, the phase is reached, and exactly if it comes
before the phase at hand the next turn has started by then, with nothing noted for it. Otherwise
nothing but the phase has changed. Either way the cards stay where they are and as they lie, and
nothing has changed that does not belong to the turn. -/
theorem advanceTo_exact (h : s.isTerminal = false) (target : Phase) :
    (s.advanceTo target).phase = target ∧
      ((s.advanceTo target).turn = s.turn + 1 ↔ target.place < s.phase.place) ∧
      (target.place < s.phase.place → (s.advanceTo target).Unspent) ∧
      (¬ target.place < s.phase.place → s.advanceTo target = { s with phase := target }) ∧
      s.Persists (s.advanceTo target) := by
  rw [advanceTo_eq h]
  by_cases hbefore : target.place < s.phase.place
  · rw [if_pos hbefore]
    have hunspent := s.unspent_beginTurn
    exact ⟨rfl, iff_of_true rfl hbefore,
      fun _ => ⟨hunspent.cards, hunspent.effects, hunspent.summons, hunspent.field⟩,
      fun hlater => absurd hbefore hlater, s.persists_beginTurn.withPhase target⟩
  · rw [if_neg hbefore]
    refine ⟨rfl, iff_of_false (fun hturn => ?_) hbefore, fun hearlier => absurd hearlier hbefore,
      fun _ => rfl, (Persists.refl s).withPhase target⟩
    exact s.turn_beginTurn_ne hturn.symm

/-- The main phase of the third turn: a monster was set and counters were placed on it, and the
normal summon is spent. -/
def spentTurn : Snapshot :=
  { Sequencer.cardless with
    phase := .main
    turn := 3
    normalSummonsLeft := 0
    usedCards := [⟨1⟩]
    board := { monsterZone := [{
      id := ⟨1⟩
      data := .monster ⟨1⟩ "Warrior" .normal ⟨4, 1700, 1000, .warrior⟩
      location := .monsterZone
      field := some { Placement.setMonster.fresh with
        placedThisTurn := true
        counters := [⟨.spell, 2⟩]
        activated := [⟨⟨1⟩, .ignition⟩] } }] } }

/-- On the way to the standby phase the fourth turn starts, and the monster keeps its counters. -/
theorem advanceTo_standby_spentTurn : spentTurn.isTerminal = false ∧
    (spentTurn.advanceTo .standby).turn = 4 ∧ (spentTurn.advanceTo .standby).Unspent ∧
    spentTurn.Persists (spentTurn.advanceTo .standby) ∧
    ((spentTurn.advanceTo .standby).find? ⟨1⟩).map (·.counter .spell) = some 2 := by
  have hopen : spentTurn.isTerminal = false := rfl
  have hbefore : Phase.standby.place < spentTurn.phase.place := by decide
  obtain ⟨-, hturn, hunspent, -, hkept⟩ := advanceTo_exact hopen .standby
  exact ⟨hopen, hturn.mpr hbefore, hunspent hbefore, hkept, rfl⟩

end Snapshot

end SoloDuel
