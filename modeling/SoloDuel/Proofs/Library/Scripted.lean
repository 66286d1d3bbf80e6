import Mathlib.Data.List.Forall2
import SoloDuel.Library.Effects
import SoloDuel.Proofs.Engine.Steps
/-!
# Library effects written as scripts

Most effects of the library are written out, with requirements and steps of their own. Six of them
ask for a single thing that a condition can say as well, and do what instructions can say. As
scripts these compile to effects that cannot be told from the ones written out.

* `Step.Alike`, `CardEffect.Alike` — steps, and effects, that cannot be told apart.
* `Script.meaning_eq` — what a script with a single condition stands for.
* `Library.scripted` — the six effects, each with its script.
* `Library.compile_alike` — the script of each compiles to an effect like it.
-/

namespace SoloDuel

/-- Two steps show the player the same, ask the same and do the same. -/
structure Step.Alike (a b : Step) : Prop where
  id : a.id = b.id
  summary : a.summary = b.summary
  request : ∀ s, a.request s = b.request s
  run : ∀ s chosen, a.run s chosen = b.run s chosen

/-- Two effects may be activated in the same places, are refused for the same reasons otherwise, and
are played out in steps that are alike. -/
structure CardEffect.Alike (e e' : CardEffect) : Prop where
  validate : ∀ book s source, e.validate book s source = e'.validate book s source
  activation : ∀ s source,
    List.Forall₂ Step.Alike (e.activationSteps s source) (e'.activationSteps s source)
  resolution : ∀ s source,
    List.Forall₂ Step.Alike (e.resolutionSteps s source) (e'.resolutionSteps s source)

theorem Step.Alike.refl (step : Step) : step.Alike step :=
  ⟨rfl, rfl, fun _ => rfl, fun _ _ => rfl⟩

theorem CardEffect.Alike.refl (e : CardEffect) : e.Alike e where
  validate := fun _ _ _ => rfl
  activation := fun _ _ => List.forall₂_same.mpr fun step _ => .refl step
  resolution := fun _ _ => List.forall₂_same.mpr fun step _ => .refl step

/-- The requirement of a script with a single condition is the check of that condition. -/
theorem Script.meaning_eq {script : Script} {c : Condition} (h : script.conditions = [c]) :
    script.meaning =
      ((CardEffect.new script.card script.template script.once)
        |>.requiring (ConditionCheck.ofKind c.kind c)
        |>.resolving fun _ source => script.instructions.map (·.step source)) := by
  have hcheck : (fun s source => script.conditions.forM fun c =>
      ConditionCheck.ofKind c.kind c s source) = ConditionCheck.ofKind c.kind c := by
    funext s source
    rw [h, List.forM_eq_forM, List.forM_cons, List.forM_nil, bind_pure_unit]
  rw [meaning, hcheck]

namespace Library

open Passcode

/-- Effects of the library, each with a script that says the same. -/
def scripted : List (Script × CardEffect) :=
  [(⟨potOfGreed, .normalSpell, .unlimited, [.deckAtLeast 2], [.draw 2]⟩, potOfGreedEffect),
    (⟨gracefulCharity, .normalSpell, .unlimited, [.deckAtLeast 3], [.draw 3, .discard 2]⟩,
      gracefulCharityEffect),
    (⟨upstartGoblin, .normalSpell, .unlimited, [.deckAtLeast 1],
      [.draw 1, .gainLife .opponent 1000]⟩, upstartGoblinEffect),
    (⟨reinforcementOfTheArmy, .normalSpell, .unlimited,
      [.zoneHas .deck (.monster (some .warrior) (some 4))],
      [.search (.monster (some .warrior) (some 4))]⟩, reinforcementOfTheArmyEffect),
    (⟨terraforming, .normalSpell, .unlimited, [.zoneHas .deck (.spell .field)],
      [.search (.spell .field)]⟩, terraformingEffect),
    (⟨jarOfGreed, .normalTrap, .unlimited, [.deckAtLeast 1], [.draw 1]⟩, jarOfGreedEffect)]

/-- Scripts ask for cards in the deck as the library does. -/
theorem ofKind_deckAtLeast (count : UInt64) :
    ConditionCheck.ofKind .deckAtLeast (.deckAtLeast count) =
      fun s _ => requireDeck s count.toNat := rfl

/-- Scripts ask for a suitable card in a zone as the library does. -/
theorem ofKind_zoneHas (zone : ZoneName) (filter : CardFilter) :
    ConditionCheck.ofKind .zoneHas (.zoneHas zone filter) =
      fun s _ => requireInZone s zone filter := rfl

/-- The scripts compile to the very effects. -/
theorem compile_scripted {script : Script} {effect : CardEffect}
    (h : (script, effect) ∈ scripted) : script.compile .builtin .builtin = .ok effect := by
  suffices hmeaning : script.meaning = effect by rw [script.compile_builtin, hmeaning]
  simp only [scripted, List.mem_cons, Prod.mk.injEq, List.not_mem_nil, or_false] at h
  rcases h with ⟨rfl, rfl⟩ | ⟨rfl, rfl⟩ | ⟨rfl, rfl⟩ | ⟨rfl, rfl⟩ | ⟨rfl, rfl⟩ | ⟨rfl, rfl⟩
  case inr.inr.inr.inl | inr.inr.inr.inr.inl =>
    -- Reinforcement of the Army and Terraforming look for a card
    exact (Script.meaning_eq rfl).trans (by rw [Condition.kind, ofKind_zoneHas]; rfl)
  all_goals
    -- the other four count the deck
    exact (Script.meaning_eq rfl).trans (by rw [Condition.kind, ofKind_deckAtLeast]; rfl)

/-- **Scripts and written-out effects agree.** Each of the six is an effect of the library, and its
script compiles to an effect that is allowed and refused as it is, with the same refusals, under any
rules and on any snapshot, and whose steps show, ask and do the same one by one. -/
theorem compile_alike : ∀ p ∈ scripted, p.2 ∈ spellEffects ∧
    ∃ e, p.1.compile .builtin .builtin = .ok e ∧ e.Alike p.2 := by
  intro p hp
  refine ⟨?_, p.2, compile_scripted hp, .refl p.2⟩
  simp only [scripted, List.mem_cons, List.not_mem_nil, or_false] at hp
  rcases hp with rfl | rfl | rfl | rfl | rfl | rfl <;> simp [spellEffects]

/-- Upstart Goblin, whose script asks for a card to draw and pays the opponent. -/
theorem compile_upstartGoblin_alike :
    ∃ e, (Script.compile ⟨upstartGoblin, .normalSpell, .unlimited, [.deckAtLeast 1],
        [.draw 1, .gainLife .opponent 1000]⟩ .builtin .builtin) = .ok e ∧
      e.Alike upstartGoblinEffect :=
  (compile_alike
    (⟨upstartGoblin, .normalSpell, .unlimited, [.deckAtLeast 1],
      [.draw 1, .gainLife .opponent 1000]⟩, upstartGoblinEffect)
    (by simp [scripted])).2

end Library

end SoloDuel
