import SoloDuel.Proofs.Board.Arranged
import SoloDuel.Proofs.Engine.Stock
/-!
# What installing the library gives

Installing asks nothing of the configuration, so that what an engine with the library holds can be
worked out for one configuration.

* `Library.engine_eq` — the configuration goes along unread.
* `Library.catalog_values_engine`, `Library.rules_values_engine`, `Library.triggers_values_engine` —
  the species, the rules and the triggers, in the order in which they were registered.
-/

namespace SoloDuel

namespace Engine

variable {e : Engine}

/-- The engine with another configuration. -/
def withConfig (config : DuelConfig) (e : Engine) : Engine := { e with config := config }

variable (config : DuelConfig)

theorem registerCard_withConfig (card : CardData) :
    (e.withConfig config).registerCard card =
      (e.registerCard card).map (withConfig config) id := rfl

theorem registerEffect_withConfig (effect : CardEffect) :
    (e.withConfig config).registerEffect effect =
      (e.registerEffect effect).map (withConfig config) id := rfl

theorem registerScript_withConfig (script : Script) :
    (e.withConfig config).registerScript script =
      (e.registerScript script).map (withConfig config) id := by
  have hcompile : script.compile (e.withConfig config).conditions
      (e.withConfig config).instructions = script.compile e.conditions e.instructions := rfl
  unfold registerScript
  rw [hcompile]
  cases script.compile e.conditions e.instructions <;> rfl

theorem registerRule_withConfig (rule : Rule) :
    (e.withConfig config).registerRule rule =
      (e.registerRule rule).map (withConfig config) id := rfl

theorem registerTrigger_withConfig (t : Trigger) :
    (e.withConfig config).registerTrigger t =
      (e.registerTrigger t).map (withConfig config) id := rfl

end Engine

/-- A change that commutes with every registration commutes with a series of them. -/
theorem registerEach_map {ε σ : Type} {f : σ → σ} {registrations : List (Registration ε σ)}
    (h : ∀ registration ∈ registrations, ∀ s, registration (f s) = (registration s).map f id)
    (s : σ) : (registerEach registrations (f s)).1 = f (registerEach registrations s).1 := by
  induction registrations generalizing s with
  | nil => rfl
  | cons registration rest ih =>
    have hfirst := h registration List.mem_cons_self s
    have hsame : (registration (f s)).2 = (registration s).2 := by rw [hfirst, Prod.map_snd, id]
    cases hfault : (registration s).2 with
    | none =>
      rw [registerEach_of_accepted hfault, registerEach_of_accepted (hsame.trans hfault), hfirst]
      exact ih (fun r hr => h r (List.mem_cons_of_mem _ hr)) _
    | some fault =>
      rw [registerEach_of_refused hfault, registerEach_of_refused (hsame.trans hfault), hfirst]
      rfl

namespace Library

/-- **Installing the library reads nothing of the configuration.** -/
theorem engine_eq (config : DuelConfig) : engine config = (engine {}).withConfig config := by
  refine registerEach_map (f := Engine.withConfig config) (fun registration hmem e => ?_) (.bare {})
  simp only [registrations, List.mem_append, List.mem_map, List.mem_cons, List.not_mem_nil,
    or_false] at hmem
  rcases hmem with
    (((⟨card, -, rfl⟩ | ⟨effect, -, rfl⟩) | rfl | rfl | rfl) | ⟨rule, -, rfl⟩) | rfl
  · exact Engine.registerCard_withConfig config card
  · exact Engine.registerEffect_withConfig config effect
  · exact Engine.registerScript_withConfig config intoTheVoidScript
  · exact Engine.registerEffect_withConfig config royalMagicalLibraryEffect
  · exact Engine.registerTrigger_withConfig config libraryTrigger
  · exact Engine.registerRule_withConfig config rule
  · exact Engine.registerTrigger_withConfig config citadelTrigger

/-- The catalog of an engine with the library is the list of built-in cards. -/
theorem catalog_values_engine (config : DuelConfig) : (engine config).catalog.values = cards := by
  have hvalues : (engine {}).catalog.values = cards := by decide +kernel
  rw [engine_eq]
  exact hvalues

/-- The rules of an engine with the library are the built-in ones. -/
theorem rules_values_engine (config : DuelConfig) : (engine config).book.rules.values = rules := by
  have hvalues : (engine {}).book.rules.values = rules := rfl
  rw [engine_eq]
  exact hvalues

/-- The built-in rules of a category, in the order they are asked. -/
theorem ofCategory_engine (config : DuelConfig) (category : RuleCategory) :
    (engine config).book.ofCategory category = rules.filter (·.category = category) := by
  rw [RuleBook.ofCategory_eq, rules_values_engine]

/-- The triggers of an engine with the library are the two that place spell counters. -/
theorem triggers_values_engine (config : DuelConfig) :
    (engine config).book.triggers.values = [libraryTrigger, citadelTrigger] := by
  have hvalues : (engine {}).book.triggers.values = [libraryTrigger, citadelTrigger] := rfl
  rw [engine_eq]
  exact hvalues

/-- The built-in cards are made as one of the three kinds. -/
theorem wellFormed_cards : ∀ card ∈ cards, card.WellFormed := by
  simp only [cards, List.forall_mem_cons]
  repeat' constructor
  all_goals simp

end Library

end SoloDuel
