import SoloDuel.Proofs.Library.Upkeep
import SoloDuel.Proofs.Snapshot.Piles
/-!
# The protection of a citadel

A Magical Citadel of Endymion pays with a spell counter for not being destroyed, so that it lasts
exactly as long as its counters do: the last counter still pays, and without it nothing is left to
pay with. No other card is protected at all.

* `RuleBook.Endures` — destructions in a row that cost a copy a spell counter each.
* `RuleBook.Succumbs` — a destruction that goes through.
* `Library.endures_then_succumbs` — what becomes of any card on the field.
-/

namespace SoloDuel

open Snapshot

namespace RuleBook

variable {book : RuleBook} {s : Snapshot} {id : InstanceId} {card : CardInstance}

/-- Destructions of a copy in a row, each on what the one before it has left. Each succeeds, reports
nothing and costs the copy one spell counter, and changes nothing else. -/
inductive Endures (book : RuleBook) (id : InstanceId) : Nat → Snapshot → Snapshot → Prop
  | none (s : Snapshot) : Endures book id 0 s s
  | next {n : Nat} {s u : Snapshot} {out : Outcome} : book.destroy s id = .ok out →
      out.events = [] → LosesCounter .spell id s out.state → Endures book id n out.state u →
      Endures book id (n + 1) s u

/-- A destruction that goes through: the copy goes to the end of the graveyard, which is reported
once, and nothing else changes. -/
def Succumbs (book : RuleBook) (s : Snapshot) (id : InstanceId) : Prop :=
  ∃ card out, s.find? id = some card ∧ book.destroy s id = .ok out ∧ s.Destroyed [card] out

theorem succumbs_of_unprotected (hs : s.board.Sound) (hfind : s.find? id = some card)
    (hfield : card.isOnField = true) (hcard : book.Unprotected card) : book.Succumbs s id := by
  have hfielded := Fielded.singleton hs hfind hfield
  obtain ⟨rfl, -⟩ := mem_zone_of_find? hs hfind
  exact ⟨card, _, hfind, destroy_of_unprotected hs hfind hfield hcard, hfielded.destroyed hs _⟩

end RuleBook

namespace Library

variable {s : Snapshot} {id : InstanceId} {card : CardInstance} {n : Nat}

/-- A citadel with counters pays with one of them. -/
theorem exists_destroy_citadel (config : DuelConfig) (hs : s.board.Sound)
    (hfind : s.find? id = some card) (hcard : card.cardId = Passcode.magicalCitadelOfEndymion)
    (htidy : Counter.Tidy card.piles) (hcounter : card.counter .spell ≠ 0) :
    ∃ out, (engine config).book.destroy s id = .ok out ∧ out.events = [] ∧
      LosesCounter .spell id s out.state ∧ out.state.board.Sound ∧
      out.state.find? id = some (card.takeOne .spell) := by
  have hprotected : card.cardId = Passcode.magicalCitadelOfEndymion ∧ 0 < card.counter .spell :=
    ⟨hcard, UInt32.pos_iff_ne_zero.mpr hcounter⟩
  obtain ⟨out, hremove, hevents, hloses, hsound, hafter⟩ :=
    exists_losesCounter hs hfind htidy hcounter
  refine ⟨{ out with message := s!"{card.name} removed a spell counter instead" }, ?_, hevents,
    hloses, hsound, hafter⟩
  rw [destroy_eq config hs hfind (CardInstance.isOnField_of_counter hcounter), if_pos hprotected,
    hremove]
  rfl

/-- **A citadel endures a destruction for each of its counters.** -/
theorem exists_endures (config : DuelConfig) (hs : s.board.Sound) (hfind : s.find? id = some card)
    (hfield : card.isOnField = true) (hcard : card.cardId = Passcode.magicalCitadelOfEndymion)
    (htidy : Counter.Tidy card.piles) (hn : (card.counter .spell).toNat = n) :
    ∃ t last, (engine config).book.Endures id n s t ∧ t.board.Sound ∧ t.find? id = some last ∧
      last.isOnField = true ∧ last.counter .spell = 0 := by
  induction n generalizing s card with
  | zero => exact ⟨s, card, .none s, hs, hfind, hfield, UInt32.toNat_inj.mp hn⟩
  | succ n ih =>
    have hcounter : card.counter .spell ≠ 0 := by
      intro hzero
      rw [hzero] at hn
      cases hn
    obtain ⟨out, hdestroy, hevents, hloses, hsound, hafter⟩ :=
      exists_destroy_citadel config hs hfind hcard htidy hcounter
    -- one counter fewer, on a copy that is tidy as before
    have hfewer : ((card.takeOne .spell).counter .spell).toNat = n := by
      have hloss := hloses.fewer
      rw [counter_of_find? hafter, counter_of_find? hfind] at hloss
      omega
    have htidy' : Counter.Tidy (card.takeOne .spell).piles := by
      rw [CardInstance.piles_takeOne]
      exact htidy.takeOne .spell
    have hfield' : (card.takeOne .spell).isOnField = true :=
      (CardInstance.isOnField_mapField _ card).trans hfield
    obtain ⟨t, last, hendures, hlast⟩ := ih hsound hafter hfield' hcard htidy' hfewer
    exact ⟨t, last, .next hdestroy hevents hloses hendures, hlast⟩

/-- **A citadel lasts exactly as long as its spell counters.** On a snapshot that passes the check,
destroying a citadel on the field costs it a spell counter and nothing else, as many times in a row
as it has spell counters, and the next time the citadel is destroyed. Any other card on the field is
destroyed the first time. -/
theorem endures_then_succumbs (config : DuelConfig) (hcheck : s.check = .ok ())
    (hfind : s.find? id = some card) (hfield : card.isOnField = true) :
    (card.cardId = Passcode.magicalCitadelOfEndymion → Counter.Tidy card.piles →
        ∃ t, (engine config).book.Endures id (card.counter .spell).toNat s t ∧
          (engine config).book.Succumbs t id) ∧
      (card.cardId ≠ Passcode.magicalCitadelOfEndymion → (engine config).book.Succumbs s id) := by
  have hs : s.board.Sound := Board.check_eq_ok_iff.mp hcheck
  constructor
  · intro hcard htidy
    obtain ⟨t, last, hendures, hsound, hlast, hlastField, hnone⟩ :=
      exists_endures config hs hfind hfield hcard htidy rfl
    have hspent : ¬ (last.cardId = Passcode.magicalCitadelOfEndymion ∧
        0 < last.counter .spell) := by
      rw [hnone]
      exact fun h => absurd h.2 (by decide)
    exact ⟨t, hendures, RuleBook.succumbs_of_unprotected hsound hlast hlastField
      (unprotected config hspent)⟩
  · intro hother
    exact RuleBook.succumbs_of_unprotected hs hfind hfield
      (unprotected config fun hcitadel => hother hcitadel.1)

/-- A citadel with two spell counters and a counter of another kind. -/
def guarded : CardInstance where
  id := ⟨1⟩
  data := .spell Passcode.magicalCitadelOfEndymion "Magical Citadel of Endymion" .field
  location := .fieldZone
  field := some { Placement.faceUp.fresh with counters := [⟨.spell, 2⟩, ⟨.generic 1, 1⟩] }

/-- The field with that citadel. -/
def guardedField : Snapshot := { Sequencer.cardless with board := { fieldZone := [guarded] } }

/-- The citadel endures two destructions, and the third destroys it. -/
theorem endures_twice_then_succumbs : guardedField.check = .ok () ∧ Counter.Tidy guarded.piles ∧
    ∃ t, (engine {}).book.Endures ⟨1⟩ 2 guardedField t ∧ (engine {}).book.Succumbs t ⟨1⟩ := by
  have hcheck : guardedField.check = .ok () := rfl
  have hfind : guardedField.find? ⟨1⟩ = some guarded := rfl
  have htidy : Counter.Tidy guarded.piles := ⟨by decide, by decide⟩
  exact ⟨hcheck, htidy, (endures_then_succumbs {} hcheck hfind rfl).1 rfl htidy⟩

end Library

end SoloDuel
