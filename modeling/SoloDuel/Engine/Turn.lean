import SoloDuel.Engine.Basic
/-!
# Turns

Going through the phases of a turn and drawing for the turn. A decided duel does not go on.
-/

namespace SoloDuel

namespace Snapshot

/-- Goes to the next phase. Leaving the last phase starts a new turn. -/
def advancePhase (s : Snapshot) : Snapshot :=
  if s.isTerminal then s
  else if s.phase.endsTurn then { s.beginTurn with phase := s.phase.next }
  else { s with phase := s.phase.next }

/-- Goes to the next phase up to a number of times, until a phase is reached. -/
def advanceWithin (target : Phase) : Nat → Snapshot → Snapshot
  | 0, s => s
  | n + 1, s =>
    if s.phase = target ∨ s.isTerminal then s else advanceWithin target n s.advancePhase

/-- Goes on until a phase is reached; the phase at hand is reached already. There are four phases,
so four advances reach any of them. -/
def advanceTo (s : Snapshot) (target : Phase) : Snapshot := s.advanceWithin target 4

end Snapshot

namespace Engine

/-- Draws for the turn. With an empty deck the duel is lost instead. -/
def drawForTurn (e : Engine) (s : Snapshot) : Except Refusal Snapshot :=
  if s.isTerminal then .error .decided
  else if s.phase ≠ .draw then .error (.drawnInDraw s.phase)
  else if s.count .deck = 0 then .ok (e.evaluateVictory s true)
  else do
    let out ← s.draw 1
    return e.evaluateVictory out.state false

end Engine

end SoloDuel
