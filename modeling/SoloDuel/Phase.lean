/-!
# Phases

A turn runs through four phases in a fixed cycle. Battle is not played out.
-/

namespace SoloDuel

/-- A phase of a turn. -/
inductive Phase where
  | draw
  | standby
  | main
  | ending
  deriving DecidableEq

namespace Phase

/-- The phase that follows; the last is followed by the draw phase. -/
def next : Phase → Phase
  | draw => standby
  | standby => main
  | main => ending
  | ending => draw

/-- Whether leaving this phase starts a new turn. -/
def endsTurn : Phase → Bool
  | ending => true
  | _ => false

/-- How messages show a phase. -/
def text : Phase → String
  | draw => "draw"
  | standby => "standby"
  | main => "main"
  | ending => "end"

instance : ToString Phase := ⟨text⟩

end Phase

end SoloDuel
