import SoloDuel.Rule.Basic
import SoloDuel.Trigger
/-!
# The rule book

The continuous rules and the triggers in force. Rules of one category are asked in the order in
which they were registered.
-/

namespace SoloDuel

/-- The continuous rules and the triggers in force. -/
structure RuleBook where
  /-- The rules by number, filed by category. -/
  rules : IndexedRegistry RuleId Rule Rule.category
  triggers : TriggerTable

namespace RuleBook

/-- A book without rules and triggers. -/
def empty : RuleBook := ⟨IndexedRegistry.empty "additional rules", TriggerTable.empty⟩

/-- Adds a rule under its own number. -/
def register (book : RuleBook) (rule : Rule) : RuleBook × Option RegistryFault :=
  let (rules, fault) := book.rules.register rule.id rule
  ({ book with rules := rules }, fault)

/-- Adds a trigger under its own number. -/
def registerTrigger (book : RuleBook) (t : Trigger) : RuleBook × Option RegistryFault :=
  let (triggers, fault) := TriggerTable.register book.triggers t
  ({ book with triggers := triggers }, fault)

/-- The rule registered under a number. -/
def get (book : RuleBook) (id : RuleId) : Except RegistryFault Rule := book.rules.get id

/-- The rules of a category, in the order they were registered. -/
def ofCategory (book : RuleBook) (category : RuleCategory) : List Rule :=
  book.rules.ofGroup category

/-- The rules of a category that have a say, in the order they were registered. -/
def applicable (book : RuleBook) (category : RuleCategory) (s : Snapshot) (ctx : RuleContext) :
    List Rule :=
  (book.ofCategory category).filter (·.canApply s ctx)

/-- The steps with which the triggers answer an event. -/
def collect (book : RuleBook) : Collector := TriggerTable.collect book.triggers

end RuleBook

end SoloDuel
