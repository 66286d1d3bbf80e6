import SoloDuel.Proofs.Snapshot.FaceUp
/-!
# Burying copies

Copies on the field that are sent to the graveyard one after another. They are picked out before the
first of them goes; each one that goes leaves the others where they are, so that in the end all of
them lie in the graveyard in the order in which they were picked out.

* `Snapshot.Fielded` — different copies on the field; `Fielded.tail` says that burying one of them
  leaves the others there.
* `Snapshot.buried`, `zone_buried` — copies that have been buried, and what is where afterwards.
-/

namespace SoloDuel.Snapshot

variable {s : Snapshot} {id : InstanceId} {c : CardInstance} {cards : List CardInstance}

/-- The snapshot with copies sent to the graveyard, one after another. -/
def buried (s : Snapshot) (cards : List CardInstance) : Snapshot :=
  cards.foldl (fun s c => s.moved c .graveyard .faceUp) s

/-- Different copies on the field. -/
structure Fielded (s : Snapshot) (cards : List CardInstance) : Prop where
  /-- No copy is listed twice. -/
  distinct : (cards.map (·.id)).Nodup
  /-- They are the copies that are found under their numbers. -/
  found : ∀ c ∈ cards, s.find? c.id = some c
  /-- They are on the field. -/
  onField : ∀ c ∈ cards, c.isOnField = true

/-- What is picked out of the field in its order are different copies there. -/
theorem Fielded.of_sublist (hs : s.board.Sound) (h : cards.Sublist s.board.onField) :
    s.Fielded cards where
  distinct := (h.map _).nodup (Board.nodup_ids_onField hs.distinct)
  found _ hc := ((mem_onField_iff hs).mp (h.subset hc)).1
  onField _ hc := ((mem_onField_iff hs).mp (h.subset hc)).2

theorem Fielded.singleton (hs : s.board.Sound) (hfind : s.find? id = some c)
    (hfield : c.isOnField = true) : s.Fielded [c] := by
  obtain ⟨rfl, -⟩ := mem_zone_of_find? hs hfind
  exact ⟨List.nodup_singleton _, List.forall_mem_singleton.mpr hfind,
    List.forall_mem_singleton.mpr hfield⟩

/-- Burying one copy leaves the others where they are. -/
theorem Fielded.tail (hs : s.board.Sound) (h : s.Fielded (c :: cards)) :
    (s.moved c .graveyard .faceUp).Fielded cards := by
  have hdistinct := List.nodup_cons.mp h.distinct
  refine ⟨hdistinct.2, fun other hother => ?_, fun other hother =>
    h.onField other (List.mem_cons_of_mem _ hother)⟩
  have hne : other.id ≠ c.id := fun hid => hdistinct.1 (List.mem_map.mpr ⟨other, hother, hid⟩)
  have hcard := (mem_zone_of_find? hs (h.found c List.mem_cons_self)).2
  rw [find?, moved, Board.find?_relocated hs.distinct hcard, if_neg hne]
  exact h.found other (List.mem_cons_of_mem _ hother)

theorem sound_buried (hs : s.board.Sound) (h : s.Fielded cards) :
    (s.buried cards).board.Sound := by
  induction cards generalizing s with
  | nil => exact hs
  | cons c cards ih =>
    exact ih (sound_moved hs (h.found c List.mem_cons_self) .graveyard .faceUp) (h.tail hs)

/-- Nothing but the board changes. -/
theorem buried_eq (s : Snapshot) (cards : List CardInstance) :
    s.buried cards = { s with board := (s.buried cards).board } := by
  induction cards generalizing s with
  | nil => rfl
  | cons c cards ih => exact ih (s.moved c .graveyard .faceUp)

/-- The copies lie in the graveyard, in the order in which they were sent there, and nowhere else;
all others stay as they are. -/
theorem zone_buried (hs : s.board.Sound) (h : s.Fielded cards) (name : ZoneName) :
    (s.buried cards).zone name =
      if name = .graveyard then s.zone .graveyard ++ cards.map (·.movedTo .graveyard .faceUp)
      else (s.zone name).filter (·.id ∉ cards.map (·.id)) := by
  induction cards generalizing s with
  | nil =>
    have hall : (s.zone name).filter (·.id ∉ ([] : List CardInstance).map (·.id)) =
        s.zone name := List.filter_eq_self.mpr fun _ _ => rfl
    rw [hall]
    split
    · subst name
      exact (List.append_nil _).symm
    · rfl
  | cons c cards ih =>
    have hfind := h.found c List.mem_cons_self
    have hcard := (mem_zone_of_find? hs hfind).2
    have hfield : c.location ≠ .graveyard := by
      intro hgraveyard
      have honField := (hs.fielded _ c hcard).symm.trans (h.onField c List.mem_cons_self)
      rw [hgraveyard] at honField
      cases honField
    have hrest := ih (sound_moved hs hfind .graveyard .faceUp) (h.tail hs)
    rw [buried, List.foldl_cons, ← buried, hrest]
    by_cases hname : name = .graveyard
    · rw [if_pos hname, if_pos hname, zone, moved,
        Board.zone_relocated_target hs.distinct hcard hfield.symm, List.append_assoc]
      rfl
    · rw [if_neg hname, if_neg hname, zone, moved, Board.zone_relocated, if_neg hname,
        List.filter_filter]
      refine List.filter_congr fun other _ => ?_
      rw [Bool.eq_iff_iff]
      simp [and_comm]

end SoloDuel.Snapshot
