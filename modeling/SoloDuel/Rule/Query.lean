import SoloDuel.Operation.Move
import SoloDuel.Rule.Book
/-!
# Asking the rules

What a card counts as, what is allowed and what happens to a card that is destroyed, under the rules
of a book.

* `effectiveName`, `effectiveStats` — values read through the rules.
* `isActionPermitted`, `checkSummon` — permissions.
* `destroy`, `selfDestructing`, `applySelfDestruction` — destruction.
-/

namespace SoloDuel.RuleBook

/-- The name a card counts as having. -/
def effectiveName (book : RuleBook) (s : Snapshot) (card : CardInstance) : String :=
  let ctx := RuleContext.card card
  let value := (book.applicable .nameOverride s ctx).foldl
    (fun value rule => rule.apply s ctx value) (.name card.name)
  match value with
  | .name name => name
  | .stats _ => card.name

/-- The stats a monster counts as having; a card without stats has none. -/
def effectiveStats (book : RuleBook) (s : Snapshot) (card : CardInstance) : Option MonsterStats :=
  card.data.stats.map fun printed =>
    let ctx := RuleContext.card card
    let value := (book.applicable .statModifier s ctx).foldl
      (fun value rule => rule.apply s ctx value) (.stats printed)
    match value with
    | .stats stats => stats
    | .name _ => printed

/-- Whether every rule that has a say allows an activation. -/
def isActionPermitted (book : RuleBook) (s : Snapshot) (action : ActionKind) : Bool :=
  let ctx := RuleContext.action action
  (book.applicable .actionPermission s ctx).all (·.permits s ctx)

/-- The first rule of a category that has a say and does not permit. -/
def objection? (book : RuleBook) (category : RuleCategory) (s : Snapshot) (ctx : RuleContext) :
    Option Rule :=
  (book.applicable category s ctx).find? fun rule => !rule.permits s ctx

/-- Refuses a summon that a summon condition does not cover or that a rule forbids. -/
def checkSummon (book : RuleBook) (s : Snapshot) (card : CardInstance) (kind : SummonKind) :
    Except Refusal Unit :=
  let ctx := RuleContext.summon card kind
  match book.objection? .summonCondition s ctx with
  | some rule => .error (.summonCondition card.name rule.name)
  | none =>
    match book.objection? .summonPermission s ctx with
    | some rule => .error (.summonForbidden card.name rule.name)
    | none => .ok ()

/-! ## Destruction -/

/-- Destroys a card on the field. The first rule that puts something in its place decides what
happens; otherwise the card goes to the graveyard. -/
def destroy (book : RuleBook) (s : Snapshot) (id : InstanceId) : Attempt :=
  match s.find? id with
  | none => .error (.missing id)
  | some card =>
    if card.isOnField then
      let ctx := RuleContext.destroy card
      match (book.applicable .actionReplacement s ctx).findSome? fun rule => rule.replace s ctx with
      | some replaced => replaced
      | none => do
        let out ← s.sendToGraveyard id
        return { out with
          message := s!"{id} was destroyed"
          events := out.events ++ [.cardDestroyed card.cardId id] }
    else .error (.notOnField id)

/-- The cards on the field that a rule has destroy themselves, in storage order. -/
def selfDestructing (book : RuleBook) (s : Snapshot) : List InstanceId :=
  (s.board.onField.filter fun card =>
    (book.applicable .selfDestruction s (.card card)).any (·.permits s (.card card))).map (·.id)

/-- Destroys one card more and adds its events to those before. -/
def destroyNext (book : RuleBook) (out : Outcome) (id : InstanceId) : Attempt := do
  let next ← book.destroy out.state id
  return { out with state := next.state, events := out.events ++ next.events }

/-- Destroys every card that a rule has destroy itself, one after another. -/
def applySelfDestruction (book : RuleBook) (s : Snapshot) : Attempt :=
  (book.selfDestructing s).foldlM book.destroyNext { state := s }

end SoloDuel.RuleBook
