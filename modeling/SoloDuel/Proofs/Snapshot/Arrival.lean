import SoloDuel.Proofs.Snapshot.Success
/-!
# Cards that come to a zone on the field

A card that is put or set on the field from elsewhere needs room in its zone and nothing more. It is
taken out of the zone it was in and put at the end of the other, with a field state of its own.

* `Board.Arrival` — a copy has come to the end of a zone, and no other copy has changed.
* `Snapshot.moveToField_eq`, `Snapshot.setCard_eq` — what putting and setting a card come to.
* `Snapshot.arrival_moved`, `Snapshot.arrival_placed` — where the copies are afterwards.
-/

namespace SoloDuel

namespace Board

variable {a b : Board} {card : CardInstance} {zone : ZoneName} {state : FieldState}

/-- A copy has come from another zone to the end of a zone, where it lies in a state. No other copy
has changed or lost its place in the order of its zone. -/
structure Arrival (a : Board) (card : CardInstance) (zone : ZoneName) (state : FieldState)
    (b : Board) : Prop where
  held : card ∈ a.zone card.location
  leaves : card.location ≠ zone
  source : b.zone card.location = (a.zone card.location).filter (·.id ≠ card.id)
  target : b.zone zone = a.zone zone ++ [{ card with location := zone, field := some state }]
  others : ∀ name, name ≠ card.location → name ≠ zone → b.zone name = a.zone name

/-- **A card that is moved to the field arrives there.** -/
theorem arrival_relocated (ha : a.Sound) (hcard : card ∈ a.zone card.location)
    (hne : card.location ≠ zone) (hzone : zone.isOnField = true) (placement : Placement) :
    Arrival a card zone placement.fresh (a.relocated card zone placement) where
  held := hcard
  leaves := hne
  source := (zone_relocated a card zone placement card.location).trans (if_neg hne)
  target := by
    rw [zone_relocated_target ha.distinct hcard hne.symm, CardInstance.movedTo, if_pos hzone]
  others := fun _ hsource htarget => zone_relocated_of_ne ha.distinct hcard hsource htarget

/-- The field state of a copy that has arrived changes. -/
theorem Arrival.mapFields_only (h : Arrival a card zone state b) (ha : a.Sound)
    (g : FieldState → FieldState) :
    Arrival a card zone (g state) (b.mapFields (only card.id g)) := by
  have hother : ∀ name, name ≠ card.location → ∀ c ∈ a.zone name, c.id ≠ card.id :=
    fun name hname c hc hid => hname (eq_of_id_eq ha.distinct hc h.held hid).1
  refine ⟨h.held, h.leaves, ?_, ?_, fun name hsource htarget => ?_⟩
  · rw [zone_mapFields, h.source]
    exact map_mapField_only (fun c hc => by simpa using (List.mem_filter.mp hc).2) g
  · rw [zone_mapFields, h.target, List.map_append, map_mapField_only (hother zone h.leaves.symm),
      List.map_singleton, mapField_only, if_pos rfl]
    rfl
  · rw [zone_mapFields, h.others name hsource htarget, map_mapField_only (hother name hsource)]

/-- The copy is found where it has come to. -/
theorem Arrival.find? (h : Arrival a card zone state b) (hb : b.Sound) :
    b.find? card.id = some { card with location := zone, field := some state } := by
  have hmem : { card with location := zone, field := some state } ∈ b.zone zone := by
    rw [h.target]
    exact List.mem_append_right _ (List.mem_singleton_self _)
  exact find?_of_mem hb.distinct hmem

end Board

namespace Snapshot

variable {s : Snapshot} {id : InstanceId} {card : CardInstance} {zone : ZoneName}
  {placement : Placement}

/-- A card from another zone can be put in a zone on the field where there is room. -/
theorem moveToField_eq (hs : s.board.Sound) (hfind : s.find? id = some card)
    (hne : card.location ≠ zone) (hzone : zone.isOnField = true) :
    s.moveToField id zone placement =
      if s.hasSpace zone then
        .ok
          { state := s.moved card zone placement
            message := s!"{id} moved from the {card.location} to the {zone}" }
      else .error (.full zone) := by
  rw [moveToField, if_pos hzone, moveCard_eq hs hfind]
  simp only [hne, false_or]

/-- The snapshot with a copy moved on top of a zone and noted as placed this turn. -/
def placed (s : Snapshot) (card : CardInstance) (zone : ZoneName) (placement : Placement) :
    Snapshot :=
  (s.moved card zone placement).modifyField card.id fun f => { f with placedThisTurn := true }

/-- A card from another zone can be set in a zone on the field where there is room. -/
theorem setCard_eq (hs : s.board.Sound) (hfind : s.find? id = some card)
    (hne : card.location ≠ zone) (hzone : zone.isOnField = true) :
    s.setCard id zone placement =
      if s.hasSpace zone then
        .ok { state := s.placed card zone placement, message := s!"{id} set" }
      else .error (.full zone) := by
  obtain ⟨rfl, -⟩ := mem_zone_of_find? hs hfind
  rw [setCard, moveToField_eq hs hfind hne hzone]
  split_ifs <;> rfl

theorem arrival_moved (hs : s.board.Sound) (hfind : s.find? id = some card)
    (hne : card.location ≠ zone) (hzone : zone.isOnField = true) :
    Board.Arrival s.board card zone placement.fresh (s.moved card zone placement).board :=
  Board.arrival_relocated hs (mem_zone_of_find? hs hfind).2 hne hzone placement

theorem sound_placed (hs : s.board.Sound) (hfind : s.find? id = some card) (zone : ZoneName)
    (placement : Placement) : (s.placed card zone placement).board.Sound :=
  sound_modifyField (sound_moved hs hfind zone placement) card.id _

theorem arrival_placed (hs : s.board.Sound) (hfind : s.find? id = some card)
    (hne : card.location ≠ zone) (hzone : zone.isOnField = true) :
    Board.Arrival s.board card zone { placement.fresh with placedThisTurn := true }
      (s.placed card zone placement).board := by
  have hmoved := sound_moved hs hfind zone placement
  rw [placed, modifyField_eq hmoved.distinct]
  exact (arrival_moved hs hfind hne hzone).mapFields_only hs
    fun f => { f with placedThisTurn := true }

end Snapshot

end SoloDuel
