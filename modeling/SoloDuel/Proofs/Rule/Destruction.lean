import SoloDuel.Proofs.Sequencer.Protocol
import SoloDuel.Proofs.Snapshot.Buried
import SoloDuel.Rule.Query
/-!
# Cards that are destroyed

What a book of rules does to cards on the field that none of its rules protects. The cards that
destroy themselves are picked out once, on the snapshot as it is, and destroyed one after another on
what the destructions before have left.

* `RuleBook.Unprotected`, `destroy_of_unprotected` — a card that is simply destroyed.
* `Snapshot.Destroyed` — what destroyed cards leave behind.
* `RuleBook.foldlM_destroyNext` — several cards, one after another.
* `RuleBook.applySelfDestruction_exact` — the cards that destroy themselves.
-/

namespace SoloDuel

/-- Cards on the field have been destroyed, in this order: they lie at the end of the graveyard
without field state, each destruction has been reported, and the other cards are in their zones, in
their order and as they were. Nothing else has changed. -/
structure Snapshot.Destroyed (s : Snapshot) (cards : List CardInstance) (out : Outcome) :
    Prop where
  graveyard : out.state.zone .graveyard =
    s.zone .graveyard ++ cards.map fun c => { c with location := .graveyard, field := none }
  others : ∀ name, name ≠ .graveyard →
    out.state.zone name = (s.zone name).filter (·.id ∉ cards.map (·.id))
  rest : out.state = { s with board := out.state.board }
  events : out.events = cards.map fun c => .cardDestroyed c.cardId c.id

/-- Cards that are buried and reported are destroyed. -/
theorem Snapshot.Fielded.destroyed {s : Snapshot} {cards : List CardInstance}
    (h : s.Fielded cards) (hs : s.board.Sound) (message : Option String) :
    s.Destroyed cards
      { state := s.buried cards
        message := message
        events := cards.map fun c => .cardDestroyed c.cardId c.id } where
  graveyard := (s.zone_buried hs h .graveyard).trans (if_pos rfl)
  others := fun name hname => (s.zone_buried hs h name).trans (if_neg hname)
  rest := s.buried_eq cards
  events := rfl

namespace RuleBook

variable {book : RuleBook} {s : Snapshot} {id : InstanceId} {card : CardInstance}
  {cards : List CardInstance}

/-- No rule that has a say puts anything in the place of the card's destruction. -/
def Unprotected (book : RuleBook) (card : CardInstance) : Prop :=
  ∀ s, ∀ rule ∈ book.applicable .actionReplacement s (.destroy card),
    rule.replace s (.destroy card) = none

/-- Without rules for it nothing takes the place of a destruction. -/
theorem unprotected_of_ofCategory (h : book.ofCategory .actionReplacement = [])
    (card : CardInstance) : book.Unprotected card := by
  intro s rule hrule
  rw [applicable, h] at hrule
  cases hrule

/-- **A card that no rule protects goes to the graveyard.** -/
theorem destroy_of_unprotected (hs : s.board.Sound) (hfind : s.find? id = some card)
    (hfield : card.isOnField = true) (hcard : book.Unprotected card) :
    book.destroy s id = .ok
      { state := s.moved card .graveyard .faceUp
        message := s!"{id} was destroyed"
        events := [.cardDestroyed card.cardId id] } := by
  have hnone : (book.applicable .actionReplacement s (.destroy card)).findSome?
      (fun rule => rule.replace s (.destroy card)) = none :=
    List.findSome?_eq_none_iff.mpr (hcard s)
  rw [destroy, hfind]
  dsimp only
  rw [if_pos hfield, hnone]
  dsimp only
  rw [Snapshot.sendToGraveyard, Snapshot.moveCard, Snapshot.relocate_eq hs hfind rfl]
  rfl

/-- Different cards on the field that no rule protects are destroyed one after another: the
destruction of one leaves the next ones where they are, and no rule comes to protect them. -/
theorem foldlM_destroyNext (hs : s.board.Sound) (h : s.Fielded cards)
    (hcards : ∀ c ∈ cards, book.Unprotected c) (message : Option String) (events : List Event) :
    (cards.map (·.id)).foldlM book.destroyNext
        { state := s, message := message, events := events } =
      .ok
        { state := s.buried cards
          message := message
          events := events ++ cards.map fun c => .cardDestroyed c.cardId c.id } := by
  induction cards generalizing s events with
  | nil =>
    rw [List.map_nil, List.map_nil, List.append_nil]
    rfl
  | cons c cards ih =>
    have hfind := h.found c List.mem_cons_self
    have hdestroy := destroy_of_unprotected hs hfind (h.onField c List.mem_cons_self)
      (hcards c List.mem_cons_self)
    have hrest := ih (Snapshot.sound_moved hs hfind .graveyard .faceUp) (h.tail hs)
      (fun other hother => hcards other (List.mem_cons_of_mem _ hother))
      (events ++ [.cardDestroyed c.cardId c.id])
    rw [List.append_assoc] at hrest
    rw [List.map_cons, List.foldlM_cons, destroyNext, hdestroy]
    exact hrest

/-- **Self-destruction is exact.** Whatever the rules are that have cards destroy themselves, and
where none puts anything in the place of a destruction, self-destruction succeeds on every snapshot
that passes the check. Exactly the cards that it was asked about on that snapshot are destroyed, in
storage order. -/
theorem applySelfDestruction_exact (hcheck : s.check = .ok ())
    (hnone : book.ofCategory .actionReplacement = []) :
    ∃ cards out, cards.Sublist s.board.onField ∧ cards.map (·.id) = book.selfDestructing s ∧
      book.applySelfDestruction s = .ok out ∧ s.Destroyed cards out := by
  have hs : s.board.Sound := Board.check_eq_ok_iff.mp hcheck
  have hsublist := List.filter_sublist (l := s.board.onField) (p := fun card =>
    (book.applicable .selfDestruction s (.card card)).any (·.permits s (.card card)))
  have hfielded := Snapshot.Fielded.of_sublist hs hsublist
  refine ⟨_, _, hsublist, rfl, ?_, hfielded.destroyed hs none⟩
  exact foldlM_destroyNext hs hfielded (fun c _ => unprotected_of_ofCategory hnone c) none []

/-- Monsters destroy themselves while there are two or more of them. -/
def crowding : Rule where
  id := ⟨1⟩
  name := "Crowding"
  category := .selfDestruction
  canApply _ ctx := ctx.card?.any (·.location = .monsterZone)
  permits s _ := 2 ≤ s.count .monsterZone

/-- The rules with that one only. -/
def crowdingBook : RuleBook where
  rules :=
    { (Registry.empty "additional rules").push crowding.id crowding List.not_mem_nil with
      index := [(.selfDestruction, [crowding.id])]
      filed := by rintro (_ | _) <;> rfl }
  triggers := .empty

/-- Two monsters, and a spell in the field zone. -/
def crowd : Snapshot :=
  let monster := CardData.monster ⟨1⟩ "Warrior" .normal ⟨4, 1700, 1000, .warrior⟩
  { Sequencer.cardless with
    board := {
      monsterZone := [.new ⟨1⟩ monster .monsterZone, .new ⟨2⟩ monster .monsterZone]
      fieldZone := [.new ⟨3⟩ (.spell ⟨2⟩ "Field" .field) .fieldZone] } }

/-- Both monsters go, although the second is alone once the first has gone. -/
theorem applySelfDestruction_crowd : crowd.check = .ok () ∧
    crowdingBook.ofCategory .actionReplacement = [] ∧
    ∃ out, crowdingBook.applySelfDestruction crowd = .ok out ∧
      (out.state.zone .graveyard).map (·.id) = [⟨1⟩, ⟨2⟩] ∧ out.events.length = 2 ∧
      out.state.zone .fieldZone = crowd.zone .fieldZone := by
  have hcheck : crowd.check = .ok () := rfl
  have hnone : crowdingBook.ofCategory .actionReplacement = [] := rfl
  obtain ⟨cards, out, -, hids, hout, hdestroyed⟩ := applySelfDestruction_exact hcheck hnone
  have hboth : cards.map (·.id) = [⟨1⟩, ⟨2⟩] := hids
  refine ⟨hcheck, hnone, out, hout, ?_, ?_, ?_⟩
  · rw [hdestroyed.graveyard, List.map_append, List.map_map]
    exact hboth
  · rw [hdestroyed.events, List.length_map, ← List.length_map (·.id), hboth]
    rfl
  · rw [hdestroyed.others .fieldZone (by decide), hboth]
    rfl

end RuleBook

end SoloDuel
