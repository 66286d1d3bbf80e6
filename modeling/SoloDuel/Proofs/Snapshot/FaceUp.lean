import SoloDuel.Proofs.Snapshot.Success
/-!
# Face-up species

Which species are face-up on the field, said of single copies: a copy that lies face-up is on the
field, so that on a sound board no zone has to be named.

* `Board.mem_onField`, `Board.nodup_ids_onField` — the copies in the zones on the field.
* `Snapshot.mem_faceUp_iff`, `Snapshot.hasFaceUp_iff` — face-up copies of a species.
-/

namespace SoloDuel

theorem CardInstance.isOnField_of_isFaceUp {c : CardInstance} (h : c.isFaceUp = true) :
    c.isOnField = true := by
  unfold isFaceUp at h
  unfold isOnField
  cases hfield : c.field with
  | none =>
    rw [hfield] at h
    cases h
  | some f => rfl

theorem Board.mem_onField {b : Board} {c : CardInstance} :
    c ∈ b.onField ↔ ∃ name, name.isOnField = true ∧ c ∈ b.zone name := by
  simp only [onField, List.mem_map, List.mem_filter, Prod.exists, mem_cards]
  constructor
  · rintro ⟨name, _, ⟨hmem, hfield⟩, rfl⟩
    exact ⟨name, hfield, hmem⟩
  · rintro ⟨name, hfield, hmem⟩
    exact ⟨name, c, ⟨hmem, hfield⟩, rfl⟩

theorem Board.nodup_ids_onField {b : Board} (hb : b.ids.Nodup) :
    (b.onField.map (·.id)).Nodup := by
  have hfield : (b.onField.map (·.id)).Sublist b.ids := by
    rw [onField, ids, List.map_map]
    exact List.filter_sublist.map _
  exact hfield.nodup hb

namespace Snapshot

variable {s t : Snapshot} {id : InstanceId} {card other : CardId} {c : CardInstance}

/-- On a sound board the copies on the field are those with field state. -/
theorem mem_onField_iff (hs : s.board.Sound) :
    c ∈ s.board.onField ↔ s.find? c.id = some c ∧ c.isOnField = true := by
  rw [Board.mem_onField]
  constructor
  · rintro ⟨name, hname, hmem⟩
    exact ⟨find?_of_mem hs hmem, (hs.fielded name c hmem).trans hname⟩
  · rintro ⟨hfind, hfield⟩
    have hmem := (mem_zone_of_find? hs hfind).2
    exact ⟨c.location, (hs.fielded c.location c hmem).symm.trans hfield, hmem⟩

theorem mem_faceUp_iff (hs : s.board.Sound) :
    id ∈ s.faceUp card ↔ ∃ c, s.find? id = some c ∧ c.cardId = card ∧ c.isFaceUp = true := by
  simp only [faceUp, List.mem_map, List.mem_filter, mem_onField_iff hs, decide_eq_true_iff]
  constructor
  · rintro ⟨c, ⟨⟨hfind, -⟩, hcard, hface⟩, rfl⟩
    exact ⟨c, hfind, hcard, hface⟩
  · rintro ⟨c, hfind, hcard, hface⟩
    obtain ⟨rfl, -⟩ := mem_zone_of_find? hs hfind
    exact ⟨c, ⟨⟨hfind, CardInstance.isOnField_of_isFaceUp hface⟩, hcard, hface⟩, rfl⟩

theorem faceUp_nodup (hs : s.board.Sound) (card : CardId) : (s.faceUp card).Nodup :=
  (List.filter_sublist.map _).nodup (Board.nodup_ids_onField hs.distinct)

theorem faceUp_eq_nil (h : s.hasFaceUp card = false) : s.faceUp card = [] := by
  rw [faceUp, List.map_eq_nil_iff, List.filter_eq_nil_iff]
  intro c hc hspecies
  rw [hasFaceUp, List.any_eq_false] at h
  exact h c hc hspecies

/-- A copy is of one species. -/
theorem not_mem_faceUp_of_ne (hs : s.board.Sound) (hne : card ≠ other) (h : id ∈ s.faceUp card) :
    id ∉ s.faceUp other := by
  intro hother
  obtain ⟨c, hfind, rfl, -⟩ := (mem_faceUp_iff hs).mp h
  obtain ⟨c', hfind', rfl, -⟩ := (mem_faceUp_iff hs).mp hother
  rw [hfind] at hfind'
  cases hfind'
  exact hne rfl

theorem hasFaceUp_iff (hs : s.board.Sound) :
    s.hasFaceUp card = true ↔
      ∃ id c, s.find? id = some c ∧ c.cardId = card ∧ c.isFaceUp = true := by
  simp only [hasFaceUp, List.any_eq_true, mem_onField_iff hs, decide_eq_true_iff]
  constructor
  · rintro ⟨c, ⟨hfind, -⟩, hcard, hface⟩
    exact ⟨c.id, c, hfind, hcard, hface⟩
  · rintro ⟨id, c, hfind, hcard, hface⟩
    obtain ⟨rfl, -⟩ := mem_zone_of_find? hs hfind
    exact ⟨c, ⟨hfind, CardInstance.isOnField_of_isFaceUp hface⟩, hcard, hface⟩

end Snapshot

end SoloDuel
