import SoloDuel.Library.Install
import SoloDuel.Proofs.Engine.Commands
import SoloDuel.Proofs.Engine.Steps
import SoloDuel.Proofs.Rule.Categories
import SoloDuel.Proofs.Trigger.Collection
/-!
# What an engine holds

Engines are filled with the library and with further cards and scripts, in any order. Whatever the
order, and wherever a registration was refused, such an engine holds only what was registered.

* `Library.exists_performs` — what the effects of the library do is made of instructions.
* `Engine.Filled` — the engines that can be filled this way.
* `Engine.Stocked` — what they hold; `Filled.stocked` says so.
* `Stocked.replaces_handles`, `Stocked.prebuilt_effect`, `Stocked.respects_collect` — the rules,
  effects and triggers of such an engine handle cards and life only.
-/

namespace SoloDuel

/-! ## Registering -/

namespace EffectTable

variable {table : EffectTable} {e : CardEffect}

theorem register_eq_activation (h : e.category = .activation) : table.register e =
    ({ table with activation := (table.activation.register e.card e).1 },
      (table.activation.register e.card e).2) := by
  rw [register, h]

theorem register_eq_ignition (h : e.category = .ignition) : table.register e =
    ({ table with ignition := (table.ignition.register e.card e).1 },
      (table.ignition.register e.card e).2) := by
  rw [register, h]

/-- Registering an effect adds nothing but the effect. -/
theorem mem_register {effect : CardEffect} {category : EffectCategory}
    (hmem : effect ∈ ((table.register e).1.ofCategory category).values) :
    effect ∈ (table.ofCategory category).values ∨ effect = e := by
  cases hcategory : e.category with
  | activation =>
    rw [register_eq_activation hcategory] at hmem
    cases category with
    | activation => exact Registry.mem_values_register hmem
    | ignition => exact .inl hmem
  | ignition =>
    rw [register_eq_ignition hcategory] at hmem
    cases category with
    | activation => exact .inl hmem
    | ignition => exact Registry.mem_values_register hmem

/-- An effect that is refused leaves the table as it was. -/
theorem atomic_register (e : CardEffect) :
    Registration.Atomic fun table : EffectTable => table.register e := by
  cases hcategory : e.category with
  | activation =>
    simp only [register_eq_activation hcategory]
    exact (Registry.atomic_register e.card e).inPart activation
      (fun table effects => { table with activation := effects }) fun _ => rfl
  | ignition =>
    simp only [register_eq_ignition hcategory]
    exact (Registry.atomic_register e.card e).inPart ignition
      (fun table effects => { table with ignition := effects }) fun _ => rfl

end EffectTable

namespace Engine

/-! Whatever is refused leaves the engine as it was. -/

theorem atomic_registerCard (card : CardData) :
    Registration.Atomic fun e : Engine => e.registerCard card :=
  (Registry.atomic_register card.id card).inPart catalog
    (fun e catalog => { e with catalog := catalog }) fun _ => rfl

theorem atomic_registerEffect (effect : CardEffect) :
    Registration.Atomic fun e : Engine => e.registerEffect effect :=
  (EffectTable.atomic_register effect).inPart effects
    (fun e effects => { e with effects := effects }) fun _ => rfl

theorem atomic_registerScript (script : Script) :
    Registration.Atomic fun e : Engine => e.registerScript script := by
  intro e fault
  simp only [registerScript]
  split
  · exact atomic_registerEffect _ e fault
  · exact fun _ => rfl

theorem atomic_registerRule (rule : Rule) :
    Registration.Atomic fun e : Engine => e.registerRule rule :=
  (RuleBook.atomic_register rule).inPart book
    (fun e book => { e with book := book }) fun _ => rfl

theorem atomic_registerTrigger (t : Trigger) :
    Registration.Atomic fun e : Engine => e.registerTrigger t :=
  (RuleBook.atomic_registerTrigger t).inPart book
    (fun e book => { e with book := book }) fun _ => rfl

end Engine

/-- What every registration keeps, a series of registrations keeps, also when one is refused. -/
theorem registerEach_induction {ε σ : Type} {P : σ → Prop} {registrations : List (Registration ε σ)}
    (hstep : ∀ registration ∈ registrations, ∀ s, P s → P (registration s).1) {s : σ} (hs : P s) :
    P (registerEach registrations s).1 := by
  induction registrations generalizing s with
  | nil => exact hs
  | cons registration rest ih =>
    have hfirst : P (registration s).1 := hstep registration List.mem_cons_self s hs
    cases h : (registration s).2 with
    | none =>
      rw [registerEach_of_accepted h]
      exact ih (fun r hr => hstep r (List.mem_cons_of_mem _ hr)) hfirst
    | some fault =>
      rw [registerEach_of_refused h]
      exact hfirst

/-! ## The library -/

namespace Library

/-- The effects of the library, the script's among them. -/
def effects : List CardEffect :=
  spellEffects ++ [intoTheVoidScript.meaning, royalMagicalLibraryEffect]

/-- What the effects of the library do is made of instructions, none of which takes cards off the
field or adds counters. -/
theorem exists_performs {effect : CardEffect} (h : effect ∈ effects) :
    ∃ instructions, effect.Performs instructions ∧
      ∀ i ∈ instructions, i.takesFromField = false ∧ i.kind ≠ .addCounters := by
  simp only [effects, spellEffects, List.cons_append, List.nil_append, List.mem_cons,
    List.not_mem_nil, or_false] at h
  rcases h with rfl | rfl | rfl | rfl | rfl | rfl | rfl | rfl | rfl | rfl | rfl | rfl | rfl | rfl
  · exact ⟨[.draw 2], fun _ _ => rfl, by decide⟩
  · exact ⟨[.draw 3, .discard 2], fun _ _ => rfl, by decide⟩
  · exact ⟨[.draw 1, .gainLife .opponent 1000], fun _ _ => rfl, by decide⟩
  · exact ⟨[.drawUntil 3], fun _ _ => rfl, by decide⟩
  · exact ⟨[.search lowWarrior], fun _ _ => rfl, by decide⟩
  · exact ⟨[.search fieldSpell], fun _ _ => rfl, by decide⟩
  · exact ⟨[.discard 2, .addToHand .graveyard anySpell], fun _ _ => rfl, by decide⟩
  · exact ⟨[.draw 1], fun _ _ => rfl, by decide⟩
  · exact ⟨[], fun _ _ => rfl, by decide⟩
  · exact ⟨[], fun _ _ => rfl, by decide⟩
  · exact ⟨[], fun _ _ => rfl, by decide⟩
  · exact ⟨[], fun _ _ => rfl, by decide⟩
  · exact ⟨_, intoTheVoidScript.meaning_performs, by decide⟩
  · exact ⟨[.removeCounters .spell libraryCounters, .draw 1], fun _ _ => rfl, by decide⟩

/-- The rules of the library replace a destruction at the citadel only. -/
theorem eq_citadelProtection_of_replace {rule : Rule} (h : rule ∈ rules) {s : Snapshot}
    {ctx : RuleContext} {replaced : Attempt} (hreplace : rule.replace s ctx = some replaced) :
    rule = citadelProtection := by
  simp only [rules, List.mem_cons, List.not_mem_nil, or_false] at h
  rcases h with rfl | rfl | rfl | rfl | rfl | rfl | rfl | rfl | rfl | rfl | rfl
  -- Every other rule replaces nothing.
  all_goals first | cases hreplace | rfl

/-- What the triggers of the library answer with are spell counters, one each on some card. -/
theorem exists_eq_addCounters_of_mem_spellCounters {card : CardId} {limit : Option UInt32}
    {s : Snapshot} {event : Event} {step : Step} (h : step ∈ spellCounters card limit s event) :
    ∃ id, step = .addCounters id .spell 1 limit := by
  unfold spellCounters at h
  split at h
  · obtain ⟨id, -, rfl⟩ := List.mem_map.mp h
    exact ⟨id, rfl⟩
  · cases h

end Library

/-! ## Filling -/

namespace Engine

/-- An engine filled with the library and with further cards and scripts, in any order. What is
refused leaves it as it was. -/
inductive Filled (scripts : Script → Prop) : Engine → Prop
  | bare (config : DuelConfig) : Filled scripts (bare config)
  | card {e : Engine} {card : CardData} : Filled scripts e → Filled scripts (e.registerCard card).1
  | script {e : Engine} {script : Script} : Filled scripts e → scripts script →
      Filled scripts (e.registerScript script).1
  | library {e : Engine} : Filled scripts e → Filled scripts (Library.install e).1

/-- An engine holds effects of the library and of scripts, and rules and triggers of the library. -/
structure Stocked (scripts : Script → Prop) (e : Engine) : Prop where
  conditions : e.conditions = .builtin
  instructions : e.instructions = .builtin
  effects : ∀ category, ∀ effect ∈ (e.effects.ofCategory category).values,
    effect ∈ Library.effects ∨ ∃ script, scripts script ∧ effect = script.meaning
  rules : ∀ rule ∈ e.book.rules.values, rule ∈ Library.rules
  triggers : ∀ t ∈ e.book.triggers.values, t ∈ [Library.libraryTrigger, Library.citadelTrigger]

namespace Stocked

variable {scripts : Script → Prop} {e : Engine}

theorem registerCard (h : e.Stocked scripts) (card : CardData) :
    (e.registerCard card).1.Stocked scripts :=
  ⟨h.conditions, h.instructions, h.effects, h.rules, h.triggers⟩

theorem registerEffect (h : e.Stocked scripts) {effect : CardEffect}
    (heffect : effect ∈ Library.effects ∨ ∃ script, scripts script ∧ effect = script.meaning) :
    (e.registerEffect effect).1.Stocked scripts := by
  refine ⟨h.conditions, h.instructions, fun category other hother => ?_, h.rules, h.triggers⟩
  rcases EffectTable.mem_register hother with hother | rfl
  · exact h.effects category other hother
  · exact heffect

theorem registerScript (h : e.Stocked scripts) {script : Script}
    (hscript : script.meaning ∈ Library.effects ∨ scripts script) :
    (e.registerScript script).1.Stocked scripts := by
  rw [Engine.registerScript, h.conditions, h.instructions, script.compile_builtin]
  exact h.registerEffect (hscript.imp_right fun hs => ⟨script, hs, rfl⟩)

theorem registerRule (h : e.Stocked scripts) {rule : Rule} (hrule : rule ∈ Library.rules) :
    (e.registerRule rule).1.Stocked scripts := by
  refine ⟨h.conditions, h.instructions, h.effects, fun other hother => ?_, h.triggers⟩
  have htable := IndexedRegistry.toRegistry_register e.book.rules rule.id rule
  rcases Registry.mem_values_register (htable ▸ hother) with hother | rfl
  · exact h.rules other hother
  · exact hrule

theorem registerTrigger (h : e.Stocked scripts) {t : Trigger}
    (ht : t ∈ [Library.libraryTrigger, Library.citadelTrigger]) :
    (e.registerTrigger t).1.Stocked scripts := by
  refine ⟨h.conditions, h.instructions, h.effects, h.rules, fun other hother => ?_⟩
  have htable := IndexedRegistry.toRegistry_register e.book.triggers t.id t
  rcases Registry.mem_values_register (htable ▸ hother) with hother | rfl
  · exact h.triggers other hother
  · exact ht

/-- The library adds to what an engine holds nothing but what is in the library. -/
theorem install (h : e.Stocked scripts) : (Library.install e).1.Stocked scripts := by
  refine registerEach_induction (P := Stocked scripts) (fun registration hmem s hs => ?_) h
  simp only [Library.registrations, List.mem_append, List.mem_map, List.mem_cons,
    List.not_mem_nil, or_false] at hmem
  rcases hmem with
    (((⟨card, -, rfl⟩ | ⟨effect, heffect, rfl⟩) | rfl | rfl | rfl) | ⟨rule, hrule, rfl⟩) | rfl
  · exact hs.registerCard card
  · exact hs.registerEffect (.inl (List.mem_append_left _ heffect))
  · exact hs.registerScript (.inl (by simp [Library.effects]))
  · exact hs.registerEffect (.inl (by simp [Library.effects]))
  · exact hs.registerTrigger (by simp)
  · exact hs.registerRule hrule
  · exact hs.registerTrigger (by simp)

end Stocked

/-- **A filled engine holds nothing but what was registered.** -/
theorem Filled.stocked {scripts : Script → Prop} {e : Engine} (h : e.Filled scripts) :
    e.Stocked scripts := by
  induction h with
  | bare config =>
    refine ⟨rfl, rfl, fun category effect heffect => ?_, fun rule hrule => ?_, fun t ht => ?_⟩
    · cases category <;> cases heffect
    · cases hrule
    · cases ht
  | card _ ih => exact ih.registerCard _
  | script _ hscript ih => exact ih.registerScript (.inr hscript)
  | library _ ih => exact ih.install

/-- An engine with the library and nothing else is a filled one. -/
theorem filled_library (scripts : Script → Prop) (config : DuelConfig) :
    (Library.engine config).Filled scripts := .library (.bare config)

/-! ## What everything in stock does -/

namespace Stocked

variable {scripts : Script → Prop} {e : Engine}

/-- The citadel's protection is the one replacement, and it counts counters. -/
theorem replaces_spares (h : e.Stocked scripts) :
    e.book.Replaces (Snapshot.Spares fun _ => True) := by
  intro rule hrule s ctx replaced out hreplace hout
  obtain rfl := Library.eq_citadelProtection_of_replace (h.rules rule hrule) hreplace
  obtain ⟨c, -, rfl⟩ := Option.map_eq_some_iff.mp hreplace
  obtain ⟨removed, hremove, hout⟩ := bind_eq_ok.mp hout
  cases hout
  have hspares : Snapshot.Spares (fun _ => True) s removed.state :=
    Snapshot.spares_of_removeCounters _ trivial hremove
  exact hspares

theorem replaces_handles (h : e.Stocked scripts) : e.book.Replaces Snapshot.Handles :=
  h.replaces_spares.mono Snapshot.Spares.handles

/-- What the triggers answer with is spell counters. -/
theorem exists_of_mem_collect (h : e.Stocked scripts) {s : Snapshot} {event : Event} {step : Step}
    (hstep : step ∈ e.book.collect s event) :
    ∃ card limit, step ∈ Library.spellCounters card limit s event := by
  obtain ⟨t, ht, hstep⟩ := List.mem_flatMap.mp hstep
  have hlistening := (TriggerTable.mem_listening_iff.mp (List.mem_filter.mp ht).1).1
  have ht := h.triggers t hlistening
  simp only [List.mem_cons, List.not_mem_nil, or_false] at ht
  rcases ht with rfl | rfl
  · exact ⟨_, _, hstep⟩
  · exact ⟨_, _, hstep⟩

theorem exists_eq_addCounters_of_mem_collect (h : e.Stocked scripts) {s : Snapshot} {event : Event}
    {step : Step} (hstep : step ∈ e.book.collect s event) :
    ∃ id limit, step = .addCounters id .spell 1 limit := by
  obtain ⟨card, limit, hmem⟩ := h.exists_of_mem_collect hstep
  obtain ⟨id, rfl⟩ := Library.exists_eq_addCounters_of_mem_spellCounters hmem
  exact ⟨id, limit, rfl⟩

/-- The effects of an engine are made of instructions. -/
theorem exists_performs (h : e.Stocked scripts) {category : EffectCategory} {effect : CardEffect}
    (heffect : effect ∈ (e.effects.ofCategory category).values) :
    ∃ instructions, effect.Performs instructions := by
  rcases h.effects category effect heffect with heffect | ⟨script, -, rfl⟩
  · obtain ⟨instructions, hperforms, -⟩ := Library.exists_performs heffect
    exact ⟨instructions, hperforms⟩
  · exact ⟨script.instructions, script.meaning_performs⟩

theorem prebuilt_effect (h : e.Stocked scripts) {category : EffectCategory} {effect : CardEffect}
    (heffect : effect ∈ (e.effects.ofCategory category).values) : effect.Prebuilt := by
  obtain ⟨instructions, hperforms⟩ := h.exists_performs heffect
  exact hperforms.prebuilt

theorem respects_collect (h : e.Stocked scripts) : e.book.collect.Respects Snapshot.Handles := by
  intro s event step hstep
  obtain ⟨id, limit, rfl⟩ := h.exists_eq_addCounters_of_mem_collect hstep
  exact (Step.Prebuilt.addCounters id .spell 1 limit).respects

end Stocked

end Engine

end SoloDuel
