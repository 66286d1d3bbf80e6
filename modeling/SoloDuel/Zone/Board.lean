import SoloDuel.Card.Instance
import SoloDuel.Fault
import SoloDuel.Random.Generator
/-!
# The board

Every card copy of a duel is on the board, in one of seven zones. A zone is a list from its bottom
card to its top card.

* `Board.find?`, `Board.locate`, `Board.cards` — finding and listing copies.
* `Board.insert`, `Board.remove`, `Board.moveTo`, `Board.modify` — changing the board.
* `Board.fault?` — what is wrong with a board: a copy in two places, a copy that records another
  zone than the one holding it, or field state that does not fit the zone.
-/

namespace SoloDuel

/-- The cards in each zone, bottom to top. -/
structure Board where
  deck : List CardInstance := []
  hand : List CardInstance := []
  monsterZone : List CardInstance := []
  spellTrapZone : List CardInstance := []
  fieldZone : List CardInstance := []
  graveyard : List CardInstance := []
  banished : List CardInstance := []
  deriving DecidableEq

namespace Board

/-- The cards in a zone, bottom to top. -/
def zone (b : Board) : ZoneName → List CardInstance
  | .deck => b.deck
  | .hand => b.hand
  | .monsterZone => b.monsterZone
  | .spellTrapZone => b.spellTrapZone
  | .fieldZone => b.fieldZone
  | .graveyard => b.graveyard
  | .banished => b.banished

/-- The board with the cards of one zone replaced. -/
def setZone (b : Board) (name : ZoneName) (cards : List CardInstance) : Board :=
  match name with
  | .deck => { b with deck := cards }
  | .hand => { b with hand := cards }
  | .monsterZone => { b with monsterZone := cards }
  | .spellTrapZone => { b with spellTrapZone := cards }
  | .fieldZone => { b with fieldZone := cards }
  | .graveyard => { b with graveyard := cards }
  | .banished => { b with banished := cards }

@[simp] theorem zone_setZone_self (b : Board) (name : ZoneName) (cards : List CardInstance) :
    (b.setZone name cards).zone name = cards := by
  cases name <;> rfl

theorem zone_setZone_of_ne (b : Board) {name other : ZoneName} (h : other ≠ name)
    (cards : List CardInstance) : (b.setZone name cards).zone other = b.zone other := by
  cases name <;> cases other <;> first | rfl | exact absurd rfl h

/-! ## Finding and listing copies -/

/-- The number of cards in a zone. -/
def count (b : Board) (name : ZoneName) : Nat := (b.zone name).length

/-- Whether a zone has room for one more card. -/
def hasSpace (b : Board) (name : ZoneName) (limits : ZoneCapacity) : Bool :=
  match name.capacity limits with
  | some limit => b.count name < limit.toNat
  | none => true

/-- The top card of a zone. -/
def top? (b : Board) (name : ZoneName) : Option CardInstance := (b.zone name).getLast?

/-- The copy with a number, wherever it is. -/
def find? (b : Board) (id : InstanceId) : Option CardInstance :=
  ZoneName.all.findSome? fun name => (b.zone name).find? (·.id = id)

/-- The zone that holds a copy, and its place counted from the bottom. -/
def locate (b : Board) (id : InstanceId) : Option (ZoneName × Nat) :=
  ZoneName.all.findSome? fun name =>
    ((b.zone name).findIdx? (·.id = id)).map fun place => (name, place)

/-- Whether a zone holds a copy. -/
def holds (b : Board) (name : ZoneName) (id : InstanceId) : Bool :=
  (b.zone name).any (·.id = id)

/-- Every card with the zone that holds it, in storage order. -/
def cards (b : Board) : List (ZoneName × CardInstance) :=
  ZoneName.all.flatMap fun name => (b.zone name).map fun card => (name, card)

/-- The cards in the zones on the field, in storage order. -/
def onField (b : Board) : List CardInstance :=
  (b.cards.filter (·.1.isOnField)).map Prod.snd

/-- The number of cards on the board. -/
def total (b : Board) : Nat := b.cards.length

/-- The numbers of all copies, in storage order. -/
def ids (b : Board) : List InstanceId := b.cards.map (·.2.id)

/-! ## Changing the board -/

/-- Puts a copy into the zone it records. -/
def insert (b : Board) (card : CardInstance) (edge : ZoneEnd) : Board :=
  match edge with
  | .top => b.setZone card.location (b.zone card.location ++ [card])
  | .bottom => b.setZone card.location (card :: b.zone card.location)

/-- Takes a copy off the board. -/
def remove (b : Board) (id : InstanceId) : Option (CardInstance × Board) := do
  let (name, place) ← b.locate id
  let card ← (b.zone name)[place]?
  return (card, b.setZone name ((b.zone name).eraseIdx place))

/-- Moves a copy to a zone and gives the zone it recorded before. -/
def moveTo (b : Board) (id : InstanceId) (target : ZoneName) (placement : Placement)
    (edge : ZoneEnd) : Option (ZoneName × Board) := do
  let (card, rest) ← b.remove id
  return (card.location, rest.insert (card.movedTo target placement) edge)

/-- Changes a copy in place. A board that does not hold it stays as it is. -/
def modify (b : Board) (id : InstanceId) (f : CardInstance → CardInstance) : Board :=
  match b.locate id with
  | some (name, place) => b.setZone name ((b.zone name).modify place f)
  | none => b

/-- Changes every card in the zones on the field. -/
def modifyOnField (b : Board) (f : CardInstance → CardInstance) : Board :=
  { b with
    monsterZone := b.monsterZone.map f
    spellTrapZone := b.spellTrapZone.map f
    fieldZone := b.fieldZone.map f }

/-- Shuffles the deck. -/
def shuffleDeck (b : Board) (g : Generator) : Board × Generator :=
  let (deck, g') := g.shuffle b.deck
  ({ b with deck := deck }, g')

/-! ## What can be wrong with a board -/

/-- What is wrong with the first bad card of a list, when the copies in `seen` came before it. -/
def faultAmong (seen : List InstanceId) : List (ZoneName × CardInstance) → Option BoardFault
  | [] => none
  | (holder, card) :: rest =>
    if card.id ∈ seen then some (.repeated card.id)
    else if card.location ≠ holder then some (.misplaced card.id card.location holder)
    else if card.isOnField ≠ holder.isOnField then some (.mismatched card.id holder)
    else faultAmong (card.id :: seen) rest

/-- What is wrong with the first bad card in storage order. -/
def fault? (b : Board) : Option BoardFault := faultAmong [] b.cards

/-- Refuses a board with which something is wrong. -/
def check (b : Board) : Except EngineFault Unit :=
  match b.fault? with
  | some fault => .error (.board fault)
  | none => .ok ()

end Board

end SoloDuel
