import SoloDuel.Chain
import SoloDuel.Config
import SoloDuel.Phase
import SoloDuel.Side
import SoloDuel.Zone.Board
/-!
# Snapshots

A snapshot is the whole state of a duel at one moment. Nothing changes a snapshot: every operation
gives a new one.

* `DuelResult` — whether the duel is decided, for whom and why.
* `Snapshot` — the state; `Snapshot.same` compares two, the once-per-turn marks as sets.
* `Snapshot.markEffect`, `Snapshot.beginTurn`, `Snapshot.shuffle` — what commands change besides
  moving cards.
-/

namespace SoloDuel

/-- Why a duel ended. -/
inductive VictoryReason where
  /-- The loser's life ran out. -/
  | lifeDepleted
  /-- The loser had to draw from an empty deck. -/
  | deckOut
  /-- The victory condition of a rule holds. -/
  | special (rule : RuleId) (name : String)
  deriving DecidableEq

/-- How a duel stands. -/
inductive DuelResult where
  | ongoing
  | decided (winner : Side) (reason : VictoryReason)
  deriving DecidableEq

namespace DuelResult

/-- Whether the duel is over. -/
def isTerminal : DuelResult → Bool
  | ongoing => false
  | decided .. => true

/-- The side that won. -/
def winner? : DuelResult → Option Side
  | ongoing => none
  | decided winner _ => some winner

/-- Why it won. -/
def reason? : DuelResult → Option VictoryReason
  | ongoing => none
  | decided _ reason => some reason

end DuelResult

/-- The whole state of a duel at one moment. -/
structure Snapshot where
  /-- What was settled before the duel. -/
  config : DuelConfig
  /-- Where the cards are. -/
  board : Board
  /-- The life of each side. -/
  life : BySide Int64
  phase : Phase
  /-- The number of the turn, from 1. -/
  turn : UInt32
  /-- The chain the snapshot was given; play leaves it alone. -/
  chain : List ChainBlock
  result : DuelResult
  /-- The normal summons and sets still allowed this turn. -/
  normalSummonsLeft : UInt32
  /-- The species whose once-per-turn effect was used this turn. -/
  usedCards : List CardId
  /-- The once-per-turn effects used this turn, each with the copy that used it. -/
  usedEffects : List (InstanceId × EffectId)
  /-- The generator of the next shuffle. -/
  rng : RngState
  deriving DecidableEq

namespace Snapshot

/-! ## Reading -/

/-- The cards in a zone, bottom to top. -/
def zone (s : Snapshot) (name : ZoneName) : List CardInstance := s.board.zone name

/-- The number of cards in a zone. -/
def count (s : Snapshot) (name : ZoneName) : Nat := s.board.count name

/-- The copy with a number, wherever it is. -/
def find? (s : Snapshot) (id : InstanceId) : Option CardInstance := s.board.find? id

/-- The zone a copy records. -/
def location? (s : Snapshot) (id : InstanceId) : Option ZoneName :=
  (s.find? id).map (·.location)

/-- Whether a zone has room for one more card. -/
def hasSpace (s : Snapshot) (name : ZoneName) : Bool := s.board.hasSpace name s.config.capacity

/-- The face-up copies of a species on the field, in storage order. -/
def faceUp (s : Snapshot) (card : CardId) : List InstanceId :=
  (s.board.onField.filter fun c => c.cardId = card ∧ c.isFaceUp).map (·.id)

/-- Whether a species is face-up on the field. -/
def hasFaceUp (s : Snapshot) (card : CardId) : Bool :=
  s.board.onField.any fun c => c.cardId = card ∧ c.isFaceUp

/-- Whether the duel is over. -/
def isTerminal (s : Snapshot) : Bool := s.result.isTerminal

/-- Whether the once-per-turn effect of a species was used this turn. -/
def cardUsed (s : Snapshot) (card : CardId) : Bool := s.usedCards.contains card

/-- Whether a copy used its once-per-turn effect this turn. -/
def effectUsed (s : Snapshot) (source : InstanceId) (effect : EffectId) : Bool :=
  s.usedEffects.contains (source, effect)

/-- Refuses a snapshot with whose board something is wrong. -/
def check (s : Snapshot) : Except EngineFault Unit := s.board.check

/-- Whether two lists have the same elements. -/
def sameElements {α : Type} [DecidableEq α] (xs ys : List α) : Bool :=
  xs.all ys.contains && ys.all xs.contains

/-- Whether two snapshots are the same duel state. The once-per-turn marks are sets: the order in
which they were made tells nothing. -/
def same (s t : Snapshot) : Bool :=
  decide ({ s with usedCards := [], usedEffects := [] } =
      { t with usedCards := [], usedEffects := [] }) &&
    sameElements s.usedCards t.usedCards && sameElements s.usedEffects t.usedEffects

/-! ## Changing -/

/-- The snapshot with the field state of one copy changed. -/
def modifyField (s : Snapshot) (id : InstanceId) (f : FieldState → FieldState) : Snapshot :=
  { s with board := s.board.modify id (·.mapField f) }

/-- The snapshot with one normal summon used up. -/
def useNormalSummon (s : Snapshot) : Snapshot :=
  { s with
    normalSummonsLeft := if s.normalSummonsLeft = 0 then 0 else s.normalSummonsLeft - 1 }

/-- Marks the once-per-turn effect of a species as used. -/
def markCard (s : Snapshot) (card : CardId) : Snapshot :=
  { s with usedCards := s.usedCards.insert card }

/-- Marks a once-per-turn effect of a copy as used, on the snapshot and on the copy. -/
def markEffect (s : Snapshot) (source : InstanceId) (effect : EffectId) : Snapshot :=
  { s with usedEffects := s.usedEffects.insert (source, effect) }.modifyField source
    (·.markActivated effect)

/-- Shuffles the deck and keeps where the generator got to. -/
def shuffle (s : Snapshot) : Snapshot :=
  let (board, g) := s.board.shuffleDeck (Generator.ofState s.rng)
  { s with board := board, rng := g.state }

/-- Starts the next turn: counts it and forgets everything that lasts only for a turn. -/
def beginTurn (s : Snapshot) : Snapshot :=
  { s with
    turn := s.turn + 1
    normalSummonsLeft := s.config.normalSummonsPerTurn
    usedCards := []
    usedEffects := []
    board := s.board.modifyOnField (·.mapField (·.resetForTurn)) }

end Snapshot

end SoloDuel
