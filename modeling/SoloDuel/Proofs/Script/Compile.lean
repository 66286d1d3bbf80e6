import SoloDuel.Proofs.Registry.Lookup
import SoloDuel.Script.Meaning
/-!
# What scripts compile to

A script is compiled by looking up every kind it uses. The tables may have a meaning for some kinds
only, and any meaning at all: what comes out is decided by the meanings that are there.

* `Script.FirstUnknown` — what the fault of a script that does not compile is about.
* `Script.StandsFor` — the effect checks the conditions and makes the steps that the script lists.
* `compile_eq_ok` — the effect of a script all of whose kinds have a meaning.
* `compile_faithful` — the one happens where a kind has no meaning, the other where all have one.
-/

namespace SoloDuel.Script

variable {script : Script} {conditions : ConditionTable} {instructions : InstructionTable}

/-- The fault is about the first kind without a meaning, conditions before instructions. -/
inductive FirstUnknown (script : Script) (conditions : ConditionTable)
    (instructions : InstructionTable) (fault : RegistryFault) : Prop
  | condition : conditions.FirstMissing Condition.kind script.conditions fault →
      FirstUnknown script conditions instructions fault
  | instruction : (∀ c ∈ script.conditions, c.kind ∈ conditions.keys) →
      instructions.FirstMissing Instruction.kind script.instructions fault →
      FirstUnknown script conditions instructions fault

/-- An effect is what a script says, each condition and each instruction taken to mean what the
tables have for its kind. -/
structure StandsFor (script : Script) (conditions : ConditionTable)
    (instructions : InstructionTable) (e : CardEffect) : Prop where
  card : e.card = script.card
  template : e.template = script.template
  /-- An ignition effect may be used once by each copy, whatever the script asks. -/
  once : e.once = if script.template = .ignition then .copy else script.once
  /-- After the template the conditions are checked in order, up to the first one refused. -/
  validate : ∃ checkOf : ConditionKind → ConditionCheck,
    (∀ c ∈ script.conditions, conditions.find? c.kind = some (checkOf c.kind)) ∧
    ∀ book s source, e.validate book s source = do
      script.template.validate book s source ⟨script.card, script.template.category⟩ e.once
      script.conditions.forM fun c => checkOf c.kind c s source
  /-- The steps are made in order, and a self-contained card goes to the graveyard after them. -/
  resolution : ∃ stepOf : InstructionKind → InstructionStep,
    (∀ i ∈ script.instructions, instructions.find? i.kind = some (stepOf i.kind)) ∧
    ∀ s source, e.resolutionSteps s source =
      (script.instructions.map fun i => stepOf i.kind i source) ++
        if script.template.isSelfContained then [.sendToGraveyard source] else []

/-- **The effect of a script all of whose kinds have a meaning.** -/
theorem compile_eq_ok (checkOf : ConditionKind → ConditionCheck)
    (stepOf : InstructionKind → InstructionStep)
    (hconditions : ∀ c ∈ script.conditions, conditions.find? c.kind = some (checkOf c.kind))
    (hinstructions : ∀ i ∈ script.instructions,
      instructions.find? i.kind = some (stepOf i.kind)) :
    script.compile conditions instructions = .ok
      ((CardEffect.new script.card script.template script.once)
        |>.requiring (fun s source => script.conditions.forM fun c => checkOf c.kind c s source)
        |>.resolving fun _ source => script.instructions.map fun i => stepOf i.kind i source) := by
  have hchecks := Registry.mapM_get_eq_ok (fun c check => check c) hconditions
  have hbody := Registry.mapM_get_eq_ok (fun i step => step i) hinstructions
  rw [compile, hchecks, hbody]
  simp only [bind, Except.bind, pure, Except.pure, List.map_map, List.forM_eq_forM, List.forM_map]
  rfl

theorem compile_eq_error_iff {fault : RegistryFault} :
    script.compile conditions instructions = .error fault ↔
      script.FirstUnknown conditions instructions fault := by
  rw [compile, bind_eq_error, Registry.mapM_get_eq_error_iff]
  constructor
  · rintro (hmissing | ⟨checks, hchecks, hrest⟩)
    · exact .condition hmissing
    · rcases bind_eq_error.mp hrest with hmissing | ⟨body, -, hbody⟩
      · exact .instruction (Registry.exists_mapM_get_eq_ok_iff _ |>.mp ⟨checks, hchecks⟩)
          (Registry.mapM_get_eq_error_iff _ |>.mp hmissing)
      · cases hbody
  · rintro (hmissing | ⟨hknown, hmissing⟩)
    · exact .inl hmissing
    · obtain ⟨checks, hchecks⟩ := (Registry.exists_mapM_get_eq_ok_iff _).mpr hknown
      exact .inr ⟨checks, hchecks,
        bind_eq_error.mpr (.inl ((Registry.mapM_get_eq_error_iff _).mpr hmissing))⟩

theorem exists_firstUnknown_iff :
    (∃ fault, script.FirstUnknown conditions instructions fault) ↔
      (∃ c ∈ script.conditions, c.kind ∉ conditions.keys) ∨
        ∃ i ∈ script.instructions, i.kind ∉ instructions.keys := by
  constructor
  · rintro ⟨fault, hmissing | ⟨-, hmissing⟩⟩
    · exact .inl (Registry.exists_firstMissing_iff.mp ⟨fault, hmissing⟩)
    · exact .inr (Registry.exists_firstMissing_iff.mp ⟨fault, hmissing⟩)
  · intro h
    by_cases hknown : ∀ c ∈ script.conditions, c.kind ∈ conditions.keys
    · have hinstruction := h.resolve_left fun ⟨c, hc, hunknown⟩ => hunknown (hknown c hc)
      obtain ⟨fault, hmissing⟩ := Registry.exists_firstMissing_iff.mpr hinstruction
      exact ⟨fault, .instruction hknown hmissing⟩
    · push Not at hknown
      obtain ⟨fault, hmissing⟩ := Registry.exists_firstMissing_iff.mpr hknown
      exact ⟨fault, .condition hmissing⟩

/-- A script all of whose kinds have a meaning compiles to an effect that is what it says. -/
theorem exists_standsFor (hconditions : ∀ c ∈ script.conditions, c.kind ∈ conditions.keys)
    (hinstructions : ∀ i ∈ script.instructions, i.kind ∈ instructions.keys) :
    ∃ e, script.compile conditions instructions = .ok e ∧
      script.StandsFor conditions instructions e := by
  obtain ⟨checkOf, hchecks⟩ := Registry.exists_valueOf ConditionCheck.ofKind hconditions
  obtain ⟨stepOf, hsteps⟩ := Registry.exists_valueOf (fun _ => Instruction.step) hinstructions
  refine ⟨_, compile_eq_ok checkOf stepOf hchecks hsteps, rfl, rfl, rfl,
    ⟨checkOf, hchecks, fun _ _ _ => rfl⟩, stepOf, hsteps, fun s source => ?_⟩
  cases hcontained : script.template.isSelfContained <;>
    simp [CardEffect.resolutionSteps, CardEffect.resolving, CardEffect.requiring, CardEffect.new,
      hcontained]

/-- **Compiling a script is faithful**, whatever the tables hold. A script is refused exactly where
a condition or an instruction is of a kind without a meaning, and the fault is about the first such
kind, conditions before instructions. Any other script compiles to an effect of its card and
template that checks the template and then the conditions in order, up to the first refusal; that
resolves with the steps of the instructions in order, a self-contained card going to the graveyard
at the end; and that is restricted as the script says, but for ignition effects, which each copy may
use once. -/
theorem compile_faithful (script : Script) (conditions : ConditionTable)
    (instructions : InstructionTable) :
    ((∃ fault, script.compile conditions instructions = .error fault) ↔
      (∃ c ∈ script.conditions, c.kind ∉ conditions.keys) ∨
        ∃ i ∈ script.instructions, i.kind ∉ instructions.keys) ∧
    (∀ fault, script.compile conditions instructions = .error fault ↔
      script.FirstUnknown conditions instructions fault) ∧
    ((∀ c ∈ script.conditions, c.kind ∈ conditions.keys) →
      (∀ i ∈ script.instructions, i.kind ∈ instructions.keys) →
      ∃ e, script.compile conditions instructions = .ok e ∧
        script.StandsFor conditions instructions e) := by
  refine ⟨?_, fun fault => compile_eq_error_iff, exists_standsFor⟩
  simp only [compile_eq_error_iff]
  exact exists_firstUnknown_iff

/-- A table that knows one kind only: drawing, of twice as many cards as asked. -/
def doubleDraw : InstructionTable where
  name := "dsl steps"
  entries :=
    [(.draw, fun i _ =>
      match i with
      | .draw count => .draw (count * 2)
      | _ => .notify "unsupported" "unsupported step")]
  distinct := by simp

/-- With a meaning for drawing only, an ignition effect that draws compiles, and a script that gains
life before it draws is refused. -/
theorem compile_of_doubleDraw :
    (∃ e, Script.compile ⟨⟨1⟩, .ignition, .unlimited, [.onField], [.draw 1, .draw 3]⟩
        .builtin doubleDraw = .ok e ∧
      StandsFor ⟨⟨1⟩, .ignition, .unlimited, [.onField], [.draw 1, .draw 3]⟩ .builtin doubleDraw
        e) ∧
    Script.compile ⟨⟨1⟩, .normalSpell, .card, [.deckAtLeast 1], [.gainLife .player 500, .draw 1]⟩
        .builtin doubleDraw = .error (.unknown "dsl steps" "gain_life" ["draw"]) :=
  ⟨(compile_faithful _ _ _).2.2 (by decide) (by decide),
    ((compile_faithful _ _ _).2.1 _).mpr (.instruction (by decide) (.here (by decide)))⟩

end SoloDuel.Script
