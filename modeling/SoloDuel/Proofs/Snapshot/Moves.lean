import SoloDuel.Proofs.Sequencer.Protocol
import SoloDuel.Proofs.Snapshot.Success
/-!
# A move of one card

A move looks for a copy in all seven zones, takes it out of the zone that holds it and puts it on
top of another, or of the same one. Nothing else on the board is disturbed by this, and a copy that
is already where it is to go can always be moved there again.

* `Board.relocated_relocated` — moving a copy twice is moving it once.
* `Snapshot.Full` — a zone without room.
* `Snapshot.Transfers` — a copy has come to the end of a zone, and nothing else has changed.
* `Snapshot.moveCard_exact` — when a move is refused, and what it does otherwise.
-/

namespace SoloDuel

namespace CardInstance

/-- How a copy lay before plays no part in how it lies where it is moved. -/
theorem movedTo_movedTo (c : CardInstance) (target other : ZoneName)
    (placement before : Placement) :
    (c.movedTo other before).movedTo target placement = c.movedTo target placement := rfl

theorem id_movedTo (c : CardInstance) (target : ZoneName) (placement : Placement) :
    (c.movedTo target placement).id = c.id := rfl

end CardInstance

namespace Board

variable {b : Board} {card : CardInstance} {name target : ZoneName} {placement : Placement}

/-- Without the copy every zone is as it was without it. -/
theorem filter_zone_relocated (b : Board) (card : CardInstance) (target : ZoneName)
    (placement : Placement) (name : ZoneName) :
    ((b.relocated card target placement).zone name).filter (·.id ≠ card.id) =
      (b.zone name).filter (·.id ≠ card.id) := by
  rw [zone_relocated]
  split_ifs <;> simp [CardInstance.id_movedTo]

/-- **A copy that is moved again to where it has come changes nothing.** -/
theorem relocated_relocated (b : Board) (card : CardInstance) (target : ZoneName)
    (placement : Placement) :
    (b.relocated card target placement).relocated (card.movedTo target placement) target placement =
      b.relocated card target placement := by
  refine ext_zone fun name => ?_
  rw [zone_relocated, CardInstance.id_movedTo, filter_zone_relocated, zone_relocated,
    CardInstance.movedTo_movedTo]

end Board

namespace Snapshot

variable {s : Snapshot} {id : InstanceId} {card : CardInstance} {name target : ZoneName}
  {placement : Placement}

/-- The zone holds as many cards as it may. -/
def Full (s : Snapshot) (name : ZoneName) : Prop :=
  ∃ limit, name.capacity s.config.capacity = some limit ∧ limit.toNat ≤ s.count name

theorem hasSpace_iff_not_full : s.hasSpace name = true ↔ ¬ s.Full name := by
  unfold hasSpace Board.hasSpace Full
  cases name.capacity s.config.capacity with
  | none => simp
  | some limit => simp [count]

/-- A copy has come to the end of a zone. It has kept its number and its species, and has field
state exactly if the zone is on the field, then as it is put there and with nothing noted on it.
Apart from the copy, every zone holds the same cards as before in the same order and as they were,
and nothing else has changed. -/
structure Transfers (s : Snapshot) (card : CardInstance) (target : ZoneName)
    (placement : Placement) (t : Snapshot) : Prop where
  last : (t.zone target).getLast? = some
    { id := card.id
      data := card.data
      location := target
      field :=
        if target.isOnField then
          some
            { face := placement.face
              position := placement.position
              placedThisTurn := false
              counters := []
              activated := [] }
        else none }
  others : ∀ name, (t.zone name).filter (·.id ≠ card.id) = (s.zone name).filter (·.id ≠ card.id)
  /-- No copy is in two places, and each records the zone that holds it. -/
  check : t.check = .ok ()
  rest : t = { s with board := t.board }

theorem transfers_moved (hs : s.board.Sound) (hfind : s.find? id = some card) (target : ZoneName)
    (placement : Placement) :
    s.Transfers card target placement (s.moved card target placement) where
  last := by
    show ((s.board.relocated card target placement).zone target).getLast? = _
    rw [Board.zone_relocated, if_pos rfl, List.getLast?_concat]
    rfl
  others := s.board.filter_zone_relocated card target placement
  check := Board.check_eq_ok_iff.mpr (sound_moved hs hfind target placement)
  rest := rfl

/-- A copy that is where it is to go can be moved there again, which changes nothing. -/
theorem moveCard_moved (hs : s.board.Sound) (hfind : s.find? id = some card) (target : ZoneName)
    (placement : Placement) :
    ∃ out, (s.moved card target placement).moveCard id target placement = .ok out ∧
      out.state = s.moved card target placement := by
  have hmoved := find?_moved hs hfind target placement
  have hagain := moveCard_eq (sound_moved hs hfind target placement) hmoved target placement
  rw [if_pos (.inl rfl)] at hagain
  refine ⟨_, hagain, ?_⟩
  simp [moved, Board.relocated_relocated]

/-- What a move is refused for. -/
theorem moveCard_eq_error_iff (hs : s.board.Sound) {refusal : Refusal} :
    s.moveCard id target placement = .error refusal ↔
      s.location? id = none ∧ refusal = .missing id ∨
        (∃ origin, s.location? id = some origin ∧ origin ≠ target) ∧ s.Full target ∧
          refusal = .full target := by
  cases hfind : s.find? id with
  | none =>
    have hmissing : s.moveCard id target placement = .error (.missing id) := by
      simp [moveCard, relocate, location?, hfind, bind, Except.bind]
    simp [hmissing, location?, hfind, eq_comm]
  | some card =>
    rw [moveCard_eq hs hfind, location?, hfind]
    by_cases htarget : card.location = target
    · simp [htarget]
    · by_cases hroom : s.hasSpace target = true
      · have hnotFull := hasSpace_iff_not_full.mp hroom
        simp [hroom, hnotFull]
      · have hfull : s.Full target := not_not.mp (mt hasSpace_iff_not_full.mpr hroom)
        simp [htarget, hroom, hfull, @eq_comm _ refusal]

/-- **A move disturbs nothing else.** On a snapshot that passes the check, a move of a copy to a
zone is refused exactly if no zone holds the copy, for an invalid source, or if another zone holds
it and the zone it is to go to is full, for that. Otherwise the copy comes to the end of the zone
and nothing else changes, and the same move once more succeeds and changes nothing at all. -/
theorem moveCard_exact (hcheck : s.check = .ok ()) (id : InstanceId) (target : ZoneName)
    (placement : Placement) :
    (∀ refusal, s.moveCard id target placement = .error refusal ↔
      (∀ name, s.board.holds name id = false) ∧ refusal = .missing id ∨
        (∃ origin, s.board.holds origin id = true ∧ origin ≠ target) ∧ s.Full target ∧
          refusal = .full target) ∧
      ∀ out, s.moveCard id target placement = .ok out →
        ∃ origin, ∃ card ∈ s.zone origin, card.id = id ∧
          s.Transfers card target placement out.state ∧
          ∃ again, out.state.moveCard id target placement = .ok again ∧
            again.state = out.state := by
  have hs : s.board.Sound := Board.check_eq_ok_iff.mp hcheck
  constructor
  · intro refusal
    simp only [moveCard_eq_error_iff hs, location?_eq_none_iff, location?_eq_some_iff hs]
  · intro out hout
    obtain ⟨⟨origin, next⟩, hmove, hnext⟩ := bind_eq_ok.mp hout
    obtain ⟨card, hfind, -, -, rfl⟩ := (relocate_eq_ok_iff hs.distinct).mp hmove
    cases hnext
    obtain ⟨hid, hcard⟩ := mem_zone_of_find? hs hfind
    exact ⟨card.location, card, hcard, hid, transfers_moved hs hfind target placement,
      moveCard_moved hs hfind target placement⟩

/-- A field spell in the hand, and one with counters in the only slot of the field zone. -/
def takenSlot : Snapshot :=
  let spell := CardData.spell ⟨1⟩ "Field" .field
  { Sequencer.cardless with
    board := {
      hand := [.new ⟨1⟩ spell .hand]
      fieldZone := [{
        id := ⟨2⟩
        data := spell
        location := .fieldZone
        field := some { Placement.faceUp.fresh with counters := [⟨.spell, 3⟩] } }] } }

/-- The first finds no room there. The second can be moved within the slot, where it loses its
counters, and moved so once more. -/
theorem moveCard_takenSlot : takenSlot.check = .ok () ∧
    takenSlot.moveCard ⟨1⟩ .fieldZone .faceUp = .error (.full .fieldZone) ∧
    ∃ out, takenSlot.moveCard ⟨2⟩ .fieldZone .set = .ok out ∧
      (out.state.zone .fieldZone).getLast?.map (·.field) =
        some (some ⟨.down, none, false, [], []⟩) ∧
      ∃ again, out.state.moveCard ⟨2⟩ .fieldZone .set = .ok again ∧ again.state = out.state := by
  have hcheck : takenSlot.check = .ok () := rfl
  refine ⟨hcheck, ((moveCard_exact hcheck ⟨1⟩ .fieldZone .faceUp).1 _).mpr (.inr ?_), ?_⟩
  · exact ⟨⟨.hand, rfl, by decide⟩, ⟨1, rfl, by decide⟩, rfl⟩
  · obtain ⟨out, hout⟩ : ∃ out, takenSlot.moveCard ⟨2⟩ .fieldZone .set = .ok out := ⟨_, rfl⟩
    obtain ⟨origin, card, -, -, htransfers, hagain⟩ :=
      (moveCard_exact hcheck ⟨2⟩ .fieldZone .set).2 out hout
    refine ⟨out, hout, ?_, hagain⟩
    rw [htransfers.last]
    rfl

end Snapshot

end SoloDuel
