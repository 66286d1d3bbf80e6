import SoloDuel.Proofs.Engine.Stock
/-!
# Effects leave the field alone

Once a card is in play, what its effect does brings nothing onto the field. Of what is there it
touches the source only, unless it has the player take a card off a zone on the field.

* `Instruction.spares` — the steps instructions stand for.
* `CardEffect.spares_of_performs`, `CardEffect.exists_steps_eq_of_performs` — the steps of an
  activation.
* `Engine.Stocked.exists_lawful_of_activate` — what an activation of an engine with the library and
  scripts keeps.
-/

namespace SoloDuel

open Snapshot

variable {touched : InstanceId → Prop} {source : InstanceId}

/-- The step of an instruction brings nothing onto the field and, of what is there, touches the
source only, unless the instruction takes cards off the field. -/
theorem Instruction.spares (i : Instruction) (hsource : touched source)
    (hfield : i.takesFromField = true → ∀ id, touched id) :
    (i.step source).Respects (Spares touched) := by
  intro s chosen out hrun
  cases i with
  | draw | drawUntil => exact spares_of_draw touched hrun
  | discard => exact spares_of_discard touched hrun
  | gainLife | loseLife =>
    cases hrun
    exact (Sparing.life s _).spares
  | addCounters => exact spares_of_addCounters touched hsource hrun
  | removeCounters => exact spares_of_removeCounters touched hsource hrun
  | search =>
    cases chosen with
    | nil => cases hrun
    | cons id rest => exact spares_of_search touched hrun
  | addToHand origin =>
    cases chosen with
    | nil => cases hrun
    | cons id rest => exact spares_of_addToHand touched (fun horigin => hfield horigin id) hrun
  | sendSourceToGraveyard => exact spares_of_sendToGraveyard touched hsource hrun

namespace CardEffect

variable {e : CardEffect} {s : Snapshot} {instructions : List Instruction}

/-- The steps of what an effect does leave the field alone. -/
theorem spares_of_performs (he : e.Performs instructions) (hsource : touched source)
    (hfield : ∀ i ∈ instructions, i.takesFromField = true → ∀ id, touched id) :
    ∀ step ∈ e.resolutionSteps s source, step.Respects (Spares touched) := by
  intro step hstep
  rw [resolutionSteps_eq, he s source] at hstep
  rcases List.mem_append.mp hstep with hstep | hstep
  · obtain ⟨i, hi, rfl⟩ := List.mem_map.mp hstep
    exact i.spares hsource (hfield i hi)
  · split at hstep
    · obtain rfl := List.mem_singleton.mp hstep
      exact fun s chosen out hrun => spares_of_sendToGraveyard touched hsource hrun
    · cases hstep

/-- An activation puts the source into play. The steps after that leave the field alone. -/
theorem exists_steps_eq_of_performs (touched : InstanceId → Prop) (he : e.Performs instructions)
    (hsource : touched source)
    (hfield : ∀ i ∈ instructions, i.takesFromField = true → ∀ id, touched id)
    {card : CardInstance} (hfind : s.find? source = some card) :
    ∃ rest, e.steps s source = e.template.activate card.name source e.id e.once :: rest ∧
      ∀ step ∈ rest, step.Respects (Spares touched) := by
  refine ⟨_, e.steps_eq hfind, ?_⟩
  rw [List.forall_mem_cons, List.forall_mem_cons]
  refine ⟨?_, ?_, spares_of_performs he hsource hfield⟩
  · intro s chosen out hrun
    cases hrun
    exact .refl
  · intro s chosen out hrun
    cases hrun
    exact .refl

end CardEffect

namespace Engine.Stocked

variable {scripts : Script → Prop} {e : Engine} {s : Snapshot}

theorem collect_spares (h : e.Stocked scripts) :
    e.book.collect.Respects (Spares fun _ => True) := by
  intro s event step hstep t chosen out hrun
  obtain ⟨id, limit, rfl⟩ := h.exists_eq_addCounters_of_mem_collect hstep
  exact spares_of_addCounters _ trivial hrun

/-- **What an activation keeps**: everything that the step which puts the source into play keeps,
and that holds of whatever brings nothing onto the field. -/
theorem exists_lawful_of_activate (he : e.Stocked scripts) {category : EffectCategory}
    {q : Sequencer} (h : e.activate s source category = .ok (.ready q)) :
    ∃ (card : CardInstance) (effect : CardEffect), s.find? source = some card ∧
      effect.validate e.book s source = .ok () ∧
      ∀ R : Snapshot → Snapshot → Prop, (∀ {s t}, Spares (fun _ => True) s t → R s t) →
        (effect.template.activate card.name source effect.id effect.once).Respects R →
        q.Lawful R s := by
  obtain ⟨card, effect, hfind, hget, hvalid, rfl⟩ := exists_effect_of_activate h
  obtain ⟨instructions, hperforms⟩ := he.exists_performs (Registry.mem_values_of_get hget)
  obtain ⟨rest, hsteps, hrest⟩ := CardEffect.exists_steps_eq_of_performs (fun _ => True)
    hperforms trivial (fun _ _ _ _ => trivial) hfind
  refine ⟨card, effect, hfind, hvalid, fun R hspares hactivate =>
    ⟨?_, fun s event step hstep => ?_, rfl, hspares .refl⟩⟩
  · change ∀ step ∈ effect.steps s source, step.Respects R
    rw [hsteps, List.forall_mem_cons]
    exact ⟨hactivate, fun step hstep => (hrest step hstep).mono hspares⟩
  · exact (he.collect_spares s event step hstep).mono hspares

end Engine.Stocked

end SoloDuel
