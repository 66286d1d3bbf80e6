import SoloDuel.Proofs.Registry.Indexed
import SoloDuel.Rule.Query
/-!
# What the rules allow

A rule has a say on a question where it applies. An activation or a summon is allowed where every
rule that has a say permits it, so that the order of the rules only decides which one a refusal
names.

* `RuleBook.AllPermit` — every rule of a category that has a say permits.
* `isActionPermitted_iff`, `checkSummon_eq_ok_iff` — what that means for activations and summons.
-/

namespace SoloDuel.RuleBook

variable {book : RuleBook} {category : RuleCategory} {s : Snapshot} {ctx : RuleContext}

/-- The rules of a category are those that a search of all rules finds. -/
theorem ofCategory_eq (book : RuleBook) (category : RuleCategory) :
    book.ofCategory category = book.rules.values.filter (·.category = category) :=
  book.rules.ofGroup_eq category

/-- Every rule of a category that has a say permits. -/
def AllPermit (book : RuleBook) (category : RuleCategory) (s : Snapshot) (ctx : RuleContext) :
    Prop :=
  ∀ rule ∈ book.rules.values, rule.category = category → rule.canApply s ctx = true →
    rule.permits s ctx = true

theorem mem_applicable_iff {rule : Rule} :
    rule ∈ book.applicable category s ctx ↔
      rule ∈ book.rules.values ∧ rule.category = category ∧ rule.canApply s ctx = true := by
  simp [applicable, ofCategory_eq, and_comm]

theorem allPermit_iff :
    book.AllPermit category s ctx ↔
      ∀ rule ∈ book.applicable category s ctx, rule.permits s ctx = true := by
  simp only [AllPermit, mem_applicable_iff, and_imp]

/-- An activation is allowed where no rule that has a say forbids it. -/
theorem isActionPermitted_iff {action : ActionKind} :
    book.isActionPermitted s action = true ↔
      book.AllPermit .actionPermission s (.action action) := by
  rw [allPermit_iff, isActionPermitted, List.all_eq_true]

theorem objection?_eq_none_iff :
    book.objection? category s ctx = none ↔ book.AllPermit category s ctx := by
  simp [allPermit_iff, objection?]

/-- **A summon is allowed where every summon condition covers it and no rule forbids it.** -/
theorem checkSummon_eq_ok_iff {card : CardInstance} {kind : SummonKind} :
    book.checkSummon s card kind = .ok () ↔
      book.AllPermit .summonCondition s (.summon card kind) ∧
        book.AllPermit .summonPermission s (.summon card kind) := by
  rw [← objection?_eq_none_iff, ← objection?_eq_none_iff, checkSummon]
  cases book.objection? .summonCondition s (.summon card kind) with
  | some => simp
  | none => cases book.objection? .summonPermission s (.summon card kind) <;> simp

end SoloDuel.RuleBook
