import SoloDuel.Rule.Book
/-!
# Victory

What ends a duel, in order of precedence: a victory condition of a rule, a side's life running out —
the player's first — and an empty deck when a card has to be drawn. A decided duel stays decided.
-/

namespace SoloDuel.RuleBook

/-- The first victory condition that holds. -/
def victory? (book : RuleBook) (s : Snapshot) : Option Rule :=
  (book.applicable .victoryCondition s (.victory .player)).find? (·.permits s (.victory .player))

/-- The first side whose life has run out. -/
def depleted? (s : Snapshot) : Option Side := Side.all.find? fun side => s.life.get side ≤ 0

/-- How the duel stands on a snapshot. -/
def evaluate (book : RuleBook) (s : Snapshot) (drawDue : Bool) : DuelResult :=
  if s.isTerminal then s.result
  else
    match book.victory? s with
    | some rule => .decided .player (.special rule.id rule.name)
    | none =>
      match depleted? s with
      | some side => .decided side.other .lifeDepleted
      | none =>
        if drawDue ∧ s.count .deck = 0 then .decided .opponent .deckOut else .ongoing

/-- The snapshot with its result brought up to date. -/
def settleResult (book : RuleBook) (s : Snapshot) (drawDue : Bool) : Snapshot :=
  let result := book.evaluate s drawDue
  if result.isTerminal ∧ ¬ s.isTerminal then { s with result := result } else s

end SoloDuel.RuleBook
