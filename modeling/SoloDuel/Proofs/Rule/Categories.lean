import SoloDuel.Proofs.Registry.FirstWins
import SoloDuel.Proofs.Rule.Permissions
/-!
# The categories of a rule book

A book files its rules by category, and every question to the rules goes through the categories.
Whatever is registered, in whatever order and with whatever refusals, the categories and the table
of rules agree.

* `RuleBook.filled` — the book that a series of registrations fills.
* `RuleBook.Mirrors` — the categories agree with the series.
* `RuleBook.mirrors_filled` — they do after every series.
-/

namespace SoloDuel.RuleBook

variable {rules : List Rule} {rule other : Rule} {category : RuleCategory}

/-- Registers a rule. -/
def enter (rule : Rule) : Registration RegistryFault RuleBook := fun book => book.register rule

/-- The book that a series of registrations fills. -/
def filled (rules : List Rule) : RuleBook := attemptEach enter rules .empty

/-- **A rule that is refused leaves the book as it was**, and so does a trigger. -/
theorem atomic_register (rule : Rule) :
    Registration.Atomic fun book : RuleBook => book.register rule :=
  (IndexedRegistry.atomic_register rule.id rule).inPart rules
    (fun book rules => { book with rules := rules }) fun _ => rfl

theorem atomic_registerTrigger (t : Trigger) :
    Registration.Atomic fun book : RuleBook => book.registerTrigger t :=
  (IndexedRegistry.atomic_register t.id t).inPart triggers
    (fun book triggers => { book with triggers := triggers }) fun _ => rfl

/-- Registering in a book is registering in its table of rules. -/
theorem follows_enter :
    Follows enter (fun book => book.rules.toRegistry) fun rule => (rule.id, rule) where
  register rule book := book.rules.map_register rule.id rule
  atomic := atomic_register

theorem rules_filled (rules : List Rule) : (filled rules).rules.toRegistry =
    .filled "additional rules" (rules.map fun rule => (rule.id, rule)) :=
  follows_enter.table_attemptEach rules rfl

theorem succeeds_iff : Succeeds enter rules .empty rule ↔ rule ∈ firstsBy Rule.id rules :=
  follows_enter.succeeds_iff rfl

/-- Rules that have been registered are told apart by their numbers. -/
theorem eq_of_succeeds (h : Succeeds enter rules .empty rule)
    (hother : Succeeds enter rules .empty other) (hid : rule.id = other.id) : rule = other :=
  List.inj_on_of_nodup_map (nodup_map_firstsBy Rule.id rules) (succeeds_iff.mp h)
    (succeeds_iff.mp hother) hid

/-! ## What is listed -/

/-- A category lists the first rule of each number, where it is of the category. -/
theorem ofCategory_filled (rules : List Rule) (category : RuleCategory) :
    (filled rules).ofCategory category =
      (firstsBy Rule.id rules).filter (·.category = category) := by
  rw [ofCategory_eq, filled, follows_enter.values_attemptEach rfl]

theorem mem_ofCategory_filled_iff : rule ∈ (filled rules).ofCategory category ↔
    Succeeds enter rules .empty rule ∧ rule.category = category := by
  rw [ofCategory_filled, List.mem_filter, decide_eq_true_iff, succeeds_iff]

theorem nodup_ofCategory_filled (rules : List Rule) (category : RuleCategory) :
    (((filled rules).ofCategory category).map Rule.id).Nodup := by
  rw [ofCategory_filled]
  exact (List.filter_sublist.map _).nodup (nodup_map_firstsBy Rule.id rules)

/-- A rule that has been registered stands in its own category once. -/
theorem exists_ofCategory_filled_eq (h : Succeeds enter rules .empty rule) : ∃ before after,
    (filled rules).ofCategory rule.category = before ++ rule :: after ∧
      rule.id ∉ before.map Rule.id ∧ rule.id ∉ after.map Rule.id := by
  obtain ⟨before, after, hsplit⟩ := List.append_of_mem (mem_ofCategory_filled_iff.mpr ⟨h, rfl⟩)
  have hnodup := nodup_ofCategory_filled rules rule.category
  rw [hsplit, List.map_append, List.map_cons, List.nodup_append] at hnodup
  obtain ⟨-, hafter, hapart⟩ := hnodup
  exact ⟨before, after, hsplit, fun hmem => hapart _ hmem _ List.mem_cons_self rfl,
    (List.nodup_cons.mp hafter).1⟩

/-- It stands in no other category. -/
theorem notMem_ofCategory_filled (h : Succeeds enter rules .empty rule)
    (hne : category ≠ rule.category) :
    rule.id ∉ ((filled rules).ofCategory category).map Rule.id := by
  intro hmem
  obtain ⟨other, hother, hid⟩ := List.mem_map.mp hmem
  obtain ⟨hregistered, hcategory⟩ := mem_ofCategory_filled_iff.mp hother
  obtain rfl := eq_of_succeeds hregistered h hid
  exact hne hcategory.symm

/-! ## The mirror -/

/-- What the categories and the table say after a series of registrations. -/
structure Mirrors (rules : List Rule) (book : RuleBook) : Prop where
  /-- A category lists the rules registered of it, in the order of registration. -/
  lists : ∀ category,
    book.ofCategory category = (firstsBy Rule.id rules).filter (·.category = category)
  /-- Those that are listed have been registered. -/
  registered : ∀ rule, (∃ category, rule ∈ book.ofCategory category) ↔
    Succeeds enter rules .empty rule
  /-- A rule that is registered stands in its own category once. -/
  once : ∀ rule, Succeeds enter rules .empty rule → ∃ before after,
    book.ofCategory rule.category = before ++ rule :: after ∧
      rule.id ∉ before.map Rule.id ∧ rule.id ∉ after.map Rule.id
  /-- It stands in no other. -/
  nowhereElse : ∀ rule, Succeeds enter rules .empty rule → ∀ category, category ≠ rule.category →
    rule.id ∉ (book.ofCategory category).map Rule.id
  /-- A number stands for the first rule registered under it. -/
  first : ∀ before rule after, rules = before ++ rule :: after → rule.id ∉ before.map Rule.id →
    book.get rule.id = .ok rule
  /-- Any other number stands for none. -/
  missing : ∀ id, id ∉ rules.map Rule.id → book.get id =
    .error (.unknown "additional rules" (Identifier.text id) (book.rules.ids.map Identifier.text))

theorem mirrors_of_series (rules : List Rule) : Mirrors rules (filled rules) := by
  have hwins := Registry.firstWins_filled "additional rules" (rules.map fun rule => (rule.id, rule))
  rw [← rules_filled] at hwins
  refine
    { lists := ofCategory_filled rules
      registered := fun rule => ?_
      once := fun _ => exists_ofCategory_filled_eq
      nowhereElse := fun _ hrule _ hne => notMem_ofCategory_filled hrule hne
      first := fun before rule after hrules hnew => ?_
      missing := fun id hid => ?_ }
  · simp only [mem_ofCategory_filled_iff]
    exact ⟨fun ⟨_, hrule, _⟩ => hrule, fun hrule => ⟨_, hrule, rfl⟩⟩
  · refine hwins.first (before.map fun rule => (rule.id, rule)) rule.id rule
      (after.map fun rule => (rule.id, rule)) ?_ ?_
    · rw [hrules, List.map_append, List.map_cons]
    · rw [List.map_map]
      exact hnew
  · have hkeys : id ∉ (rules.map fun rule => (rule.id, rule)).map Prod.fst := by
      rw [List.map_map]
      exact hid
    obtain ⟨fault, hget, rfl, -⟩ := hwins.missing id hkeys
    exact hget

/-- **The categories mirror the table of rules.** After any series of registrations, refused ones
included, a category lists the rules registered of it in the order of registration; each of them
stands in its own category once and in no other; and a number stands for the first rule registered
under it. A registration is refused as a duplicate where its number is taken, under whatever
category, and then changes nothing; any other is made. -/
theorem mirrors_filled (rules : List Rule) :
    Mirrors rules (filled rules) ∧
    (∀ rule : Rule, rule.id ∈ rules.map Rule.id →
      (filled rules).register rule =
          (filled rules, some (.duplicate "additional rules" (Identifier.text rule.id))) ∧
        filled (rules ++ [rule]) = filled rules) ∧
    ∀ rule : Rule, rule.id ∉ rules.map Rule.id →
      (filled rules).register rule = (filled (rules ++ [rule]), none) := by
  refine ⟨mirrors_of_series rules, fun rule hrule => ?_, fun rule hrule => ?_⟩
  · exact ⟨follows_enter.refused rfl hrule, follows_enter.unchanged rfl hrule⟩
  · exact follows_enter.accepted rfl hrule

/-- A rule that never has a say. -/
def silent (number : UInt32) (category : RuleCategory) : Rule where
  id := ⟨number⟩
  name := "Silent"
  category := category
  canApply _ _ := false

/-- The third registration repeats a number under another category: it is refused, and its category
stays empty. -/
theorem mirrors_filled_silent :
    ∃ book, book = filled [silent 4 .statModifier, silent 1 .statModifier, silent 4 .nameOverride] ∧
      (book.ofCategory .statModifier).map Rule.id = [⟨4⟩, ⟨1⟩] ∧
      book.ofCategory .nameOverride = [] ∧ book.get ⟨4⟩ = .ok (silent 4 .statModifier) := by
  obtain ⟨hmirrors, -, -⟩ :=
    mirrors_filled [silent 4 .statModifier, silent 1 .statModifier, silent 4 .nameOverride]
  refine ⟨_, rfl, ?_, ?_, hmirrors.first [] _ _ rfl List.not_mem_nil⟩
  · rw [hmirrors.lists]
    rfl
  · rw [hmirrors.lists]
    rfl

end SoloDuel.RuleBook
