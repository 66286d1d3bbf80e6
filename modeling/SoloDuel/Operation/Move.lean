import SoloDuel.Operation.Outcome
/-!
# Moving cards

The operations that move cards between zones. A card keeps its number through a move and arrives on
top of the zone; a zone on the field takes no card beyond its capacity, but a card may always be
moved within its zone.

* `relocate` — one move, which the other operations are made of.
* `moveCard`, `sendToGraveyard`, `banish` — from anywhere.
* `draw`, `drawUntil`, `discard`, `search`, `addToHand` — between deck, hand and graveyard.
* `moveToField`, `setCard`, `flipFaceUp` — on the field.
-/

namespace SoloDuel.Snapshot

/-- Refuses unless a copy is in a zone. -/
def requireIn (s : Snapshot) (id : InstanceId) (wanted : ZoneName) : Except Refusal Unit :=
  match s.location? id with
  | some location => if location = wanted then .ok () else .error (.elsewhere id location wanted)
  | none => .error (.missing id)

/-- Moves a copy on top of a zone that has room for it, and gives the zone it came from. -/
def relocate (s : Snapshot) (id : InstanceId) (target : ZoneName) (placement : Placement) :
    Except Refusal (ZoneName × Snapshot) :=
  match s.location? id with
  | none => .error (.missing id)
  | some origin =>
    if origin ≠ target ∧ ¬ s.hasSpace target then .error (.full target)
    else
      match s.board.moveTo id target placement .top with
      | none => .error (.missing id)
      | some (recorded, board) => .ok (recorded, { s with board := board })

/-- Moves a card to any zone. -/
def moveCard (s : Snapshot) (id : InstanceId) (target : ZoneName) (placement : Placement) :
    Attempt := do
  let (origin, next) ← s.relocate id target placement
  return { state := next, message := s!"{id} moved from the {origin} to the {target}" }

/-- Sends a card to the graveyard from wherever it is. -/
def sendToGraveyard (s : Snapshot) (id : InstanceId) : Attempt := s.moveCard id .graveyard .faceUp

/-- Banishes a card from wherever it is. -/
def banish (s : Snapshot) (id : InstanceId) : Attempt := s.moveCard id .banished .faceUp

/-! ## Deck, hand and graveyard -/

/-- Moves cards one at a time from the top of the deck to the hand. -/
def drawCards : Nat → Snapshot → Except Refusal Snapshot
  | 0, s => .ok s
  | n + 1, s =>
    match s.board.top? .deck with
    | none => .error .drawnOut
    | some card => do
      let (_, next) ← s.relocate card.id .hand .faceUp
      drawCards n next

/-- Draws cards from the top of the deck, which must have enough of them. -/
def draw (s : Snapshot) (count : Nat) : Attempt :=
  if s.count .deck < count then .error (.shortDraw count (s.count .deck))
  else do
    let next ← drawCards count s
    return { state := next, message := s!"drew {count} card(s)", events := [.cardsDrawn count] }

/-- Draws until the hand has a number of cards. With that many in hand, nothing is drawn. -/
def drawUntil (s : Snapshot) (handSize : Nat) : Attempt := s.draw (handSize - s.count .hand)

/-- Sends one card from the hand to the graveyard. -/
def discardOne (s : Snapshot) (id : InstanceId) : Except Refusal Snapshot := do
  s.requireIn id .hand
  let (_, next) ← s.relocate id .graveyard .faceUp
  return next

/-- Sends cards from the hand to the graveyard, in order. -/
def discard (s : Snapshot) (ids : List InstanceId) : Attempt := do
  let next ← ids.foldlM discardOne s
  return { state := next, message := s!"discarded {ids.length} card(s)" }

/-- Adds a card from the deck to the hand and shuffles the deck. -/
def search (s : Snapshot) (id : InstanceId) : Attempt := do
  s.requireIn id .deck
  let (_, next) ← s.relocate id .hand .faceUp
  return { state := next.shuffle, message := s!"added {id} from the deck to the hand" }

/-- Adds a card from a zone to the hand. From the deck this is a search. -/
def addToHand (s : Snapshot) (id : InstanceId) (origin : ZoneName) : Attempt :=
  if origin = .deck then s.search id
  else do
    s.requireIn id origin
    let (_, next) ← s.relocate id .hand .faceUp
    return { state := next, message := s!"added {id} from the {origin} to the hand" }

/-- Shuffles the deck. -/
def shuffleDeck (s : Snapshot) : Attempt :=
  .ok { state := s.shuffle, message := some "deck shuffled" }

/-! ## The field -/

/-- Moves a card to a zone on the field. -/
def moveToField (s : Snapshot) (id : InstanceId) (target : ZoneName) (placement : Placement) :
    Attempt :=
  if target.isOnField then s.moveCard id target placement else .error (.notFieldZone target)

/-- Moves a card to a zone on the field and records that it was placed this turn. -/
def setCard (s : Snapshot) (id : InstanceId) (target : ZoneName) (placement : Placement) :
    Attempt := do
  let out ← s.moveToField id target placement
  return { out with
    state := out.state.modifyField id fun f => { f with placedThisTurn := true }
    message := s!"{id} set" }

/-- Turns a card on the field face-up. -/
def flipFaceUp (s : Snapshot) (id : InstanceId) : Attempt :=
  match s.find? id with
  | none => .error (.missing id)
  | some card =>
    if card.isOnField then
      .ok
        { state := s.modifyField id fun f => { f with face := .up }
          message := s!"{id} flipped face-up" }
    else .error (.notOnField id)

end SoloDuel.Snapshot
