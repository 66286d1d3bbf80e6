import SoloDuel.Snapshot.Basic
/-!
# References to cards

Ways to name a card of a snapshot: by the number of the copy, by its place in a zone, or by its
species.
-/

namespace SoloDuel

/-- A way to name a card. -/
inductive CardRef where
  /-- The copy with a number, which no zone need hold. -/
  | copy (id : InstanceId)
  /-- The card at a place of a zone, counted from 0 at the bottom or from -1 at the top. -/
  | place (zone : ZoneName) (index : Int)
  /-- The first copy of a species in storage order, perhaps in one zone only. -/
  | species (card : CardId) (zone : Option ZoneName)

namespace CardRef

/-- The copy that is named, if there is one. -/
def resolve (s : Snapshot) : CardRef → Option InstanceId
  | copy id => some id
  | place zone index =>
    let cards := s.zone zone
    let fromBottom := if index < 0 then index + cards.length else index
    if fromBottom < 0 then none else cards[fromBottom.toNat]?.map (·.id)
  | species card zone =>
    let cards :=
      match zone with
      | some name => s.zone name
      | none => s.board.cards.map Prod.snd
    (cards.find? (·.cardId = card)).map (·.id)

end CardRef

end SoloDuel
