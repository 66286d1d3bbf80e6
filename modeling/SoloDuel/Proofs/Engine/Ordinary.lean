import SoloDuel.Proofs.Engine.Stock
/-!
# Engines of ordinary make

The engine takes effects, triggers and rules from outside as functions, and a function may hand back
any snapshot it likes. What is said of whole duels here is said of engines whose effects and
triggers are made of prebuilt steps, scripted ones among them, and whose rules put operations in the
place of a destruction. Engines filled with the library and with scripts are made so.

* `Operation.performEach`, `Snapshot.Performed` — a series of operations, and what it makes.
* `Engine.Ordinary` — the engines made so; `Stocked.ordinary` has those filled with the library.
* `Ordinary.replaces_handles`, `Ordinary.respects_collect` — their rules and triggers handle cards
  and life only.
* `Engine.meddled`, `Engine.haunted`, `Engine.cursed` — engines that are not made so: their rules,
  their triggers or their effects hand back snapshots at will.
-/

namespace SoloDuel

/-- Performs operations one after another, up to the first one refused. -/
def Operation.performEach (operations : List Operation) (s : Snapshot) : Except Refusal Snapshot :=
  operations.foldlM (fun t o => (o.perform t).map (·.state)) s

namespace Snapshot

variable {s t : Snapshot}

/-- One snapshot is what a series of operations makes of another. -/
def Performed (s t : Snapshot) : Prop :=
  ∃ operations, Operation.performEach operations s = .ok t

/-- Operations handle cards and life only. -/
theorem Performed.handles (h : Performed s t) : Handles s t := by
  obtain ⟨operations, hperform⟩ := h
  refine foldlM_induction (P := Handles s) (fun u o v hu hv => ?_) .refl hperform
  obtain ⟨out, hout, rfl⟩ := Engine.exists_of_map_eq_ok hv
  exact hu.trans (handles_of_operation hout)

theorem performed_one {o : Operation} {out : Outcome} (h : o.perform s = .ok out) :
    Performed s out.state :=
  ⟨[o], by simp only [Operation.performEach, List.foldlM_cons, h]; rfl⟩

end Snapshot

open Snapshot

namespace Engine

variable {e : Engine}

/-- Effects and triggers are made of prebuilt steps, and what rules put in the place of a
destruction is made of operations. -/
structure Ordinary (e : Engine) : Prop where
  effects : ∀ category, ∀ effect ∈ (e.effects.ofCategory category).values, effect.Prebuilt
  triggers : ∀ s event, ∀ step ∈ e.book.collect s event, step.Prebuilt
  rules : e.book.Replaces Performed

namespace Ordinary

theorem replaces_handles (h : e.Ordinary) : e.book.Replaces Handles :=
  h.rules.mono Performed.handles

theorem respects_collect (h : e.Ordinary) : e.book.collect.Respects Handles :=
  fun s event step hstep => (h.triggers s event step hstep).respects

end Ordinary

/-- **Engines that hold the library, further cards and scripts are ordinary.** -/
theorem Stocked.ordinary {scripts : Script → Prop} (h : e.Stocked scripts) : e.Ordinary where
  effects := fun _ _ heffect => h.prebuilt_effect heffect
  triggers := by
    intro s event step hstep
    obtain ⟨id, limit, rfl⟩ := h.exists_eq_addCounters_of_mem_collect hstep
    exact .addCounters id .spell 1 limit
  rules := by
    intro rule hrule s ctx replaced out hreplace hout
    obtain rfl := Library.eq_citadelProtection_of_replace (h.rules rule hrule) hreplace
    obtain ⟨c, -, rfl⟩ := Option.map_eq_some_iff.mp hreplace
    obtain ⟨removed, hremove, hout⟩ := bind_eq_ok.mp hout
    cases hout
    have hperformed : Performed s removed.state :=
      performed_one (o := .removeCounters c.id .spell 1) hremove
    exact hperformed

/-! ## Engines of another make -/

/-- A rule that has every card on the field destroy itself. -/
def crumbling : Rule where
  id := ⟨1⟩
  name := "Crumbling"
  category := .selfDestruction
  canApply _ _ := true

/-- A rule that keeps every card from being destroyed and hands back a snapshot of its own
making. -/
def meddling (change : Snapshot → Snapshot) : Rule where
  id := ⟨2⟩
  name := "Meddling"
  category := .actionReplacement
  canApply _ _ := true
  replace s _ := some (.ok { state := change s })

/-- An engine with the library and these two rules, in which settling changes the snapshot at will
as long as there is a card on the field. -/
def meddled (config : DuelConfig) (change : Snapshot → Snapshot) : Engine :=
  (((Library.engine config).registerRule crumbling).1.registerRule (meddling change)).1

/-- A step that hands back a snapshot of its own making. -/
def tampering (change : Snapshot → Snapshot) : Step where
  id := "tamper"
  summary := "Tamper with the duel"
  run s _ := .ok { state := change s }

/-- A trigger that answers every spell with such a step. -/
def haunting (change : Snapshot → Snapshot) : Trigger where
  id := ⟨1⟩
  name := "Haunting"
  event := .spellActivated
  fire _ _ := [tampering change]

/-- An engine with the library and this trigger. -/
def haunted (config : DuelConfig) (change : Snapshot → Snapshot) : Engine :=
  ((Library.engine config).registerTrigger (haunting change)).1

/-- An engine with the cards of the library, in which Pot of Greed does nothing but such a step. -/
def cursed (config : DuelConfig) (change : Snapshot → Snapshot) : Engine :=
  let effect := (CardEffect.new Passcode.potOfGreed .normalSpell).resolving fun _ _ =>
    [tampering change]
  { Library.engine config with effects := (EffectTable.empty.register effect).1 }

theorem effects_registerRule (e : Engine) (rule : Rule) :
    (e.registerRule rule).1.effects = e.effects := rfl

theorem effects_registerTrigger (e : Engine) (t : Trigger) :
    (e.registerTrigger t).1.effects = e.effects := rfl

section Prebuilt

variable {config : DuelConfig} {change : Snapshot → Snapshot} {category : EffectCategory}
  {effect : CardEffect}

theorem prebuilt_of_library
    (h : effect ∈ ((Library.engine config).effects.ofCategory category).values) :
    effect.Prebuilt :=
  (filled_library (fun _ => False) config).stocked.ordinary.effects category effect h

/-- Rules and triggers of another make come with effects made as they should be. -/
theorem prebuilt_of_meddled
    (h : effect ∈ ((meddled config change).effects.ofCategory category).values) :
    effect.Prebuilt := by
  rw [meddled, effects_registerRule, effects_registerRule] at h
  exact prebuilt_of_library h

theorem prebuilt_of_haunted
    (h : effect ∈ ((haunted config change).effects.ofCategory category).values) :
    effect.Prebuilt := by
  rw [haunted, effects_registerTrigger] at h
  exact prebuilt_of_library h

end Prebuilt

end Engine

end SoloDuel
