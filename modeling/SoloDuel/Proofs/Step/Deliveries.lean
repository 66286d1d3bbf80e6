import SoloDuel.Proofs.Sequencer.Protocol
import SoloDuel.Proofs.Snapshot.Deliveries
import SoloDuel.Proofs.Step.Selection
/-!
# Accepted answers are carried out

A step that moves chosen cards says twice with which cards it can do so. Its selection gives a
filter over the cards of a zone; its operation requires of each card that it is in that zone when
its turn comes. An answer that the selection accepts meets the requirement as well, also when
several cards leave one after another, and exactly the chosen cards are moved. They leave their
zone, unless they are added to the hand from the hand.

* `CardSelection.location?_of_validate` — an accepted answer is about different cards in the zone.
* `Step.Fulfils` — every answer that a step accepts is carried out, and the chosen cards change
  zone; `Step.Lifts` — or they only come to lie on top of the zone they are in.
* `Step.fulfils_of_check` — the steps that discard, search and add to the hand do so;
  `Step.stays_in_hand` — a card that is added to the hand and was there already.
-/

namespace SoloDuel

namespace CardSelection

variable {s : Snapshot} {chosen : List InstanceId} {name : ZoneName} {filter : CardFilter}
  {min max : UInt64}

/-- Cards chosen from a zone are different and all in the zone. -/
theorem location?_of_validate (hs : s.board.Sound)
    (h : (fromZone name filter min max).validate s chosen = .ok ()) :
    chosen.Nodup ∧ ∀ id ∈ chosen, s.location? id = some name := by
  obtain ⟨-, -, hnodup, hmem⟩ := validate_eq_ok_iff.mp h
  refine ⟨hnodup, fun id hid => ?_⟩
  obtain ⟨card, hcard, -, rfl⟩ := mem_candidates_fromZone.mp (hmem id hid)
  exact Snapshot.location?_of_mem hs hcard

/-- One card chosen from a zone. -/
theorem exists_eq_of_validate_one (hs : s.board.Sound)
    (h : (fromZone name filter 1 1).validate s chosen = .ok ()) :
    ∃ id, chosen = [id] ∧ s.location? id = some name := by
  obtain ⟨hmin, hmax, -⟩ := validate_eq_ok_iff.mp h
  obtain ⟨id, rfl⟩ := List.length_eq_one_iff.mp (Nat.le_antisymm hmax hmin)
  exact ⟨id, rfl, (location?_of_validate hs h).2 id List.mem_cons_self⟩

end CardSelection

namespace Step

variable {s : Snapshot}

/-- Every answer that the step accepts is carried out: the chosen cards go on top of a zone, and
exactly these change zone. -/
def Fulfils (step : Step) (s : Snapshot) (target : ZoneName) (shuffled : Prop) : Prop :=
  ∀ chosen, step.validate s chosen = .ok () → ∃ out, step.run s chosen = .ok out ∧
    s.Delivers chosen target shuffled out.state ∧
    ∀ id, out.state.location? id ≠ s.location? id ↔ id ∈ chosen

/-- Every answer that the step accepts is carried out: the chosen cards go on top of the zone they
are in, and no card changes zone. -/
def Lifts (step : Step) (s : Snapshot) (zone : ZoneName) : Prop :=
  ∀ chosen, step.validate s chosen = .ok () → ∃ out, step.run s chosen = .ok out ∧
    s.Delivers chosen zone False out.state ∧
    ∀ id, out.state.location? id = s.location? id

theorem discardMatching_fulfils (hs : s.board.Sound) (count : UInt64) (filter : CardFilter) :
    (discardMatching count filter).Fulfils s .graveyard False := by
  intro chosen hvalid
  obtain ⟨hnodup, hhand⟩ := CardSelection.location?_of_validate hs hvalid
  obtain ⟨out, hrun, hdelivers⟩ := Snapshot.delivers_of_discard hs hnodup hhand
  exact ⟨out, hrun, hdelivers, hdelivers.location?_ne_iff hhand nofun⟩

theorem search_fulfils (hs : s.board.Sound) (filter : CardFilter) :
    (search filter).Fulfils s .hand True := by
  intro chosen hvalid
  obtain ⟨id, rfl, hdeck⟩ := CardSelection.exists_eq_of_validate_one hs hvalid
  obtain ⟨out, hrun, hdelivers⟩ := Snapshot.delivers_of_search hs hdeck
  have horigin : ∀ other ∈ [id], s.location? other = some .deck := by simpa using hdeck
  exact ⟨out, hrun, hdelivers, hdelivers.location?_ne_iff horigin nofun⟩

theorem addToHand_fulfils (hs : s.board.Sound) (filter : CardFilter) {zone : ZoneName}
    (hzone : zone ≠ .hand) : (addToHand zone filter).Fulfils s .hand (zone = .deck) := by
  intro chosen hvalid
  obtain ⟨id, rfl, horigin⟩ := CardSelection.exists_eq_of_validate_one hs hvalid
  obtain ⟨out, hrun, hdelivers⟩ := Snapshot.delivers_of_addToHand hs horigin
  exact ⟨out, hrun, hdelivers, hdelivers.location?_ne_iff (by simpa using horigin) hzone⟩

theorem addToHand_lifts (hs : s.board.Sound) (filter : CardFilter) :
    (addToHand .hand filter).Lifts s .hand := by
  intro chosen hvalid
  obtain ⟨id, rfl, hhand⟩ := CardSelection.exists_eq_of_validate_one hs hvalid
  obtain ⟨out, hrun, hdelivers⟩ := Snapshot.delivers_of_addToHand hs hhand
  have hdeck : (ZoneName.hand = .deck) = False := eq_false nofun
  exact ⟨out, hrun, hdeck ▸ hdelivers, hdelivers.location?_eq (by simpa using hhand)⟩

/-- **Accepted answers are carried out.** On a snapshot that passes the check, whatever the filter,
the count and the zone are, chosen cards that a step to discard, to search or to add to the hand
accepts are never refused by its operation. Exactly the chosen cards are moved: those discarded onto
the graveyard in the order they were chosen in, the others to the top of the hand. Exactly these
change zone, but for a card that is added to the hand from the hand, where none does. -/
theorem fulfils_of_check (hs : s.check = .ok ()) :
    (∀ count filter, (discardMatching count filter).Fulfils s .graveyard False) ∧
      (∀ filter, (search filter).Fulfils s .hand True) ∧
      (∀ zone filter, zone ≠ .hand → (addToHand zone filter).Fulfils s .hand (zone = .deck)) ∧
      ∀ filter, (addToHand .hand filter).Lifts s .hand := by
  have hsound : s.board.Sound := Board.check_eq_ok_iff.mp hs
  exact ⟨discardMatching_fulfils hsound, search_fulfils hsound,
    fun _ filter hzone => addToHand_fulfils hsound filter hzone, addToHand_lifts hsound⟩

/-- A duel with two cards in the hand and one in the graveyard. -/
def threeCards : Snapshot :=
  { Sequencer.cardless with
    board :=
      { hand := [.new ⟨1⟩ (.spell ⟨1⟩ "Spell" .normal) .hand,
          .new ⟨2⟩ (.trap ⟨2⟩ "Trap" .normal) .hand]
        graveyard := [.new ⟨3⟩ (.spell ⟨1⟩ "Spell" .normal) .graveyard] } }

/-- Both cards of a hand are discarded, the later first. -/
theorem fulfils_of_three_cards : threeCards.check = .ok () ∧
    (discardMatching 2 .any).validate threeCards [⟨2⟩, ⟨1⟩] = .ok () ∧
    ∃ out, (discardMatching 2 .any).run threeCards [⟨2⟩, ⟨1⟩] = .ok out ∧
      threeCards.Delivers [⟨2⟩, ⟨1⟩] .graveyard False out.state ∧
      (out.state.zone .graveyard).map (·.id) = [⟨3⟩, ⟨2⟩, ⟨1⟩] := by
  have hcheck : threeCards.check = .ok () := rfl
  have hvalid : (discardMatching 2 .any).validate threeCards [⟨2⟩, ⟨1⟩] = .ok () := rfl
  obtain ⟨out, hrun, hdelivers, -⟩ := (fulfils_of_check hcheck).1 2 .any _ hvalid
  refine ⟨hcheck, hvalid, out, hrun, hdelivers, ?_⟩
  obtain ⟨cards, hids, -, htop⟩ := hdelivers.top
  have hmoved : (cards.map (·.movedTo .graveyard .faceUp)).map (·.id) = cards.map (·.id) := by
    rw [List.map_map]
    rfl
  rw [htop, List.map_append, hmoved, hids]
  rfl

/-- **A card added to the hand from the hand stays in the hand.** The answer is accepted and carried
out, but the card that was chosen does not change zone. -/
theorem stays_in_hand : threeCards.check = .ok () ∧
    (addToHand .hand .any).validate threeCards [⟨1⟩] = .ok () ∧
    ∃ out, (addToHand .hand .any).run threeCards [⟨1⟩] = .ok out ∧
      out.state.location? ⟨1⟩ = some .hand ∧ threeCards.location? ⟨1⟩ = some .hand ∧
      ¬ ∀ id, out.state.location? id ≠ threeCards.location? id ↔ id ∈ [⟨1⟩] := by
  refine ⟨rfl, rfl, _, rfl, rfl, rfl, fun h => ?_⟩
  exact (h ⟨1⟩).mpr List.mem_cons_self rfl

end Step

end SoloDuel
