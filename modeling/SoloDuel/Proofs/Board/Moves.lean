import Mathlib.Data.List.Perm.Basic
import SoloDuel.Proofs.Board.Sound
/-!
# Moving copies on a sound board

On a board without repeated copies, taking a copy off leaves it out of every zone. The place of the
copy plays no part, so a move is two filters and an append.

* `Board.without`, `remove_eq` — a board with a copy taken off.
* `Board.relocated`, `moveTo_eq` — a board with a copy moved on top of a zone.
* `Sound.relocated`, `roster_relocated` — a move keeps a board sound and its copies the same.
* `zone_relocated_of_ne`, `zone_relocated_target`, `find?_relocated` — what is where after a move.
-/

namespace SoloDuel.Board

variable {b : Board} {id : InstanceId} {card : CardInstance} {name : ZoneName}

/-! ## Places in a list without repeated copies -/

theorem eraseIdx_eq_filter {cards : List CardInstance} {place : Nat}
    (h : (cards.map (·.id)).Nodup) (hplace : cards[place]? = some card) :
    cards.eraseIdx place = cards.filter (·.id ≠ card.id) := by
  induction cards generalizing place with
  | nil => simp at hplace
  | cons c rest ih =>
    rw [List.map_cons, List.nodup_cons] at h
    cases place with
    | zero =>
      obtain rfl : c = card := by simpa using hplace
      have hrest : rest.filter (·.id ≠ c.id) = rest := by
        refine List.filter_eq_self.mpr fun x hx => ?_
        have hne : x.id ≠ c.id := fun hid => h.1 (List.mem_map.mpr ⟨x, hx, hid⟩)
        simpa using hne
      rw [List.eraseIdx_cons_zero, List.filter_cons_of_neg (by simp), hrest]
    | succ place =>
      rw [List.getElem?_cons_succ] at hplace
      have hne : c.id ≠ card.id := fun hid =>
        h.1 (List.mem_map.mpr ⟨card, List.mem_of_getElem? hplace, hid.symm⟩)
      rw [List.eraseIdx_cons_succ, List.filter_cons_of_pos (by simpa using hne), ih h.2 hplace]

theorem zone_nodup (h : b.ids.Nodup) (name : ZoneName) : ((b.zone name).map (·.id)).Nodup := by
  have hsub : ((b.zone name).map fun card => (name, card)).Sublist b.cards := by
    rw [cards, List.flatMap]
    exact List.sublist_flatten_of_mem (List.mem_map.mpr ⟨name, name.mem_all, rfl⟩)
  have hids : ((b.zone name).map (·.id)).Sublist b.ids := by
    simpa [ids, Function.comp_def] using hsub.map fun p => p.2.id
  exact hids.nodup h

theorem exists_of_locate {place : Nat} (h : b.locate id = some (name, place)) :
    ∃ card, (b.zone name)[place]? = some card ∧ card.id = id := by
  obtain ⟨z, -, hz⟩ := List.exists_of_findSome?_eq_some h
  obtain ⟨i, hi, heq⟩ := Option.map_eq_some_iff.mp hz
  obtain ⟨rfl, rfl⟩ : z = name ∧ i = place := by simpa using heq
  obtain ⟨hlt, hid, -⟩ := List.findIdx?_eq_some_iff_getElem.mp hi
  exact ⟨(b.zone z)[i], List.getElem?_eq_getElem hlt, by simpa using hid⟩

theorem locate_eq_none_iff : b.locate id = none ↔ b.find? id = none := by
  simp [locate, find?, List.findSome?_eq_none_iff, List.findIdx?_eq_none_iff]

/-- The place of a copy that is found. -/
theorem exists_locate_of_find? (hb : b.ids.Nodup) (h : b.find? id = some card) :
    ∃ name place, b.locate id = some (name, place) ∧ (b.zone name)[place]? = some card := by
  cases hl : b.locate id with
  | none =>
    rw [locate_eq_none_iff.mp hl] at h
    cases h
  | some p =>
    obtain ⟨name, place⟩ := p
    obtain ⟨c, hc, rfl⟩ := exists_of_locate hl
    rw [find?_of_mem hb (List.mem_of_getElem? hc)] at h
    cases h
    exact ⟨name, place, rfl, hc⟩

/-! ## Taking a copy off -/

/-- The board without a copy. -/
def without (b : Board) (id : InstanceId) : Board where
  deck := b.deck.filter (·.id ≠ id)
  hand := b.hand.filter (·.id ≠ id)
  monsterZone := b.monsterZone.filter (·.id ≠ id)
  spellTrapZone := b.spellTrapZone.filter (·.id ≠ id)
  fieldZone := b.fieldZone.filter (·.id ≠ id)
  graveyard := b.graveyard.filter (·.id ≠ id)
  banished := b.banished.filter (·.id ≠ id)

@[simp] theorem zone_without (b : Board) (id : InstanceId) (name : ZoneName) :
    (b.without id).zone name = (b.zone name).filter (·.id ≠ id) := by
  cases name <;> rfl

theorem cards_without (b : Board) (id : InstanceId) :
    (b.without id).cards = b.cards.filter (·.2.id ≠ id) := by
  simp only [cards, zone_without, List.filter_flatMap, List.filter_map]
  rfl

/-- A zone that does not hold the copy stays as it is. -/
theorem filter_zone_of_ne (hb : b.ids.Nodup) (hcard : card ∈ b.zone name) {other : ZoneName}
    (hne : other ≠ name) : (b.zone other).filter (·.id ≠ card.id) = b.zone other := by
  refine List.filter_eq_self.mpr fun c hc => ?_
  have hid : c.id ≠ card.id := fun hid => hne (eq_of_id_eq hb hc hcard hid).1
  simpa using hid

/-- **Taking a copy off leaves it out of every zone.** -/
theorem remove_eq (hb : b.ids.Nodup) (h : b.find? id = some card) :
    b.remove id = some (card, b.without id) := by
  obtain ⟨name, place, hlocate, hplace⟩ := exists_locate_of_find? hb h
  obtain ⟨rfl, -⟩ := mem_zone_of_find? h
  have hmem : card ∈ b.zone name := List.mem_of_getElem? hplace
  have hboard : b.setZone name ((b.zone name).eraseIdx place) = b.without card.id := by
    refine ext_zone fun other => ?_
    rw [zone_without]
    by_cases hother : other = name
    · rw [hother, zone_setZone_self, eraseIdx_eq_filter (zone_nodup hb name) hplace]
    · rw [zone_setZone_of_ne b hother, filter_zone_of_ne hb hmem hother]
  simp [remove, hlocate, hplace, hboard]

/-! ## Moving a copy -/

/-- The board with a copy moved on top of a zone. -/
def relocated (b : Board) (card : CardInstance) (target : ZoneName) (placement : Placement) :
    Board :=
  (b.without card.id).insert (card.movedTo target placement) .top

theorem zone_insert_top (b : Board) (card : CardInstance) (name : ZoneName) :
    (b.insert card .top).zone name =
      if name = card.location then b.zone name ++ [card] else b.zone name := by
  unfold insert
  split_ifs with h
  · rw [h, zone_setZone_self]
  · rw [zone_setZone_of_ne b h]

theorem zone_relocated (b : Board) (card : CardInstance) (target : ZoneName)
    (placement : Placement) (name : ZoneName) :
    (b.relocated card target placement).zone name =
      if name = target then (b.zone name).filter (·.id ≠ card.id) ++ [card.movedTo target placement]
      else (b.zone name).filter (·.id ≠ card.id) := by
  rw [relocated, zone_insert_top, zone_without]
  rfl

/-- **Moving a copy is two filters and an append.** -/
theorem moveTo_eq (hb : b.ids.Nodup) (h : b.find? id = some card) (target : ZoneName)
    (placement : Placement) :
    b.moveTo id target placement .top =
      some (card.location, b.relocated card target placement) := by
  obtain ⟨hid, -⟩ := mem_zone_of_find? h
  simp [moveTo, remove_eq hb h, relocated, hid]

/-! ## What a move keeps -/

theorem cards_insert_perm (b : Board) (card : CardInstance) :
    (b.insert card .top).cards.Perm (b.cards ++ [(card.location, card)]) := by
  have hsplit : (b.insert card .top).cards = ZoneName.all.flatMap fun name =>
      (b.zone name).map (name, ·) ++ if name = card.location then [(name, card)] else [] := by
    rw [cards]
    congr 1
    funext name
    rw [zone_insert_top]
    split_ifs <;> simp
  have hlast : (ZoneName.all.flatMap fun name =>
      if name = card.location then [(name, card)] else []) = [(card.location, card)] := by
    cases card.location <;> rfl
  have hperm := List.flatMap_append_perm ZoneName.all (fun name => (b.zone name).map (name, ·))
    fun name => if name = card.location then [(name, card)] else []
  rw [hlast] at hperm
  rw [hsplit]
  exact hperm.symm

/-- A board is what is left without a copy, and the copy. -/
theorem cards_without_perm (hb : b.ids.Nodup) (hcard : card ∈ b.zone name) :
    ((b.without card.id).cards ++ [(name, card)]).Perm b.cards := by
  have hmem : (name, card) ∈ b.cards := mem_cards.mpr hcard
  have herase : b.cards.erase (name, card) = (b.without card.id).cards := by
    rw [(List.Nodup.of_map _ hb).erase_eq_filter, cards_without]
    refine List.filter_congr fun p hp => ?_
    have hiff : p = (name, card) ↔ p.2.id = card.id := by
      constructor
      · rintro rfl
        rfl
      · exact List.inj_on_of_nodup_map hb hp hmem
    rw [Bool.eq_iff_iff, bne_iff_ne, decide_eq_true_iff, Ne, hiff]
  have hperm : b.cards.Perm ((name, card) :: b.cards.erase (name, card)) :=
    List.perm_cons_erase hmem
  rw [herase] at hperm
  exact (List.perm_append_singleton _ _).trans hperm.symm

theorem roster_relocated (hb : b.ids.Nodup) (hcard : card ∈ b.zone name) (target : ZoneName)
    (placement : Placement) : (b.relocated card target placement).roster.Perm b.roster := by
  have hinsert := (cards_insert_perm (b.without card.id) (card.movedTo target placement)).map
    fun p => (p.2.id, p.2.data)
  have hwithout := (cards_without_perm hb hcard).map fun p => (p.2.id, p.2.data)
  rw [List.map_append] at hinsert hwithout
  exact hinsert.trans hwithout

theorem nodup_ids_of_roster_perm {a : Board} (h : a.roster.Perm b.roster) (hb : b.ids.Nodup) :
    a.ids.Nodup := by
  rw [← map_fst_roster] at hb ⊢
  exact (h.map Prod.fst).nodup_iff.mpr hb

theorem mem_zone_relocated {c : CardInstance} {target : ZoneName} {placement : Placement} :
    c ∈ (b.relocated card target placement).zone name ↔
      (c ∈ b.zone name ∧ c.id ≠ card.id) ∨ (name = target ∧ c = card.movedTo target placement) := by
  rw [zone_relocated]
  split_ifs with h <;> simp [h]

/-- **A move keeps a board sound.** -/
theorem Sound.relocated (h : b.Sound) (hcard : card ∈ b.zone name) (target : ZoneName)
    (placement : Placement) : (b.relocated card target placement).Sound where
  distinct := nodup_ids_of_roster_perm (roster_relocated h.distinct hcard target placement)
    h.distinct
  placed := by
    intro other c hc
    rcases mem_zone_relocated.mp hc with ⟨hc, -⟩ | ⟨rfl, rfl⟩
    · exact h.placed other c hc
    · rfl
  fielded := by
    intro other c hc
    rcases mem_zone_relocated.mp hc with ⟨hc, -⟩ | ⟨rfl, rfl⟩
    · exact h.fielded other c hc
    · unfold CardInstance.isOnField CardInstance.movedTo
      cases other <;> rfl

/-! ## Zone by zone -/

/-- A zone that a copy neither leaves nor enters. -/
theorem zone_relocated_of_ne (hb : b.ids.Nodup) (hcard : card ∈ b.zone name) {target : ZoneName}
    {placement : Placement} {other : ZoneName} (hsource : other ≠ name) (htarget : other ≠ target) :
    (b.relocated card target placement).zone other = b.zone other := by
  rw [zone_relocated, if_neg htarget, filter_zone_of_ne hb hcard hsource]

/-- The zone that a copy enters from another one. -/
theorem zone_relocated_target (hb : b.ids.Nodup) (hcard : card ∈ b.zone name) {target : ZoneName}
    {placement : Placement} (hne : target ≠ name) :
    (b.relocated card target placement).zone target =
      b.zone target ++ [card.movedTo target placement] := by
  rw [zone_relocated, if_pos rfl, filter_zone_of_ne hb hcard hne]

theorem length_filter_zone (hb : b.ids.Nodup) (hcard : card ∈ b.zone name) :
    ((b.zone name).filter (·.id ≠ card.id)).length + 1 = (b.zone name).length := by
  obtain ⟨place, hplace⟩ := List.mem_iff_getElem?.mp hcard
  rw [← eraseIdx_eq_filter (zone_nodup hb name) hplace]
  exact List.length_eraseIdx_add_one (List.getElem?_eq_some_iff.mp hplace).1

theorem find?_relocated (hb : b.ids.Nodup) (hcard : card ∈ b.zone name) (target : ZoneName)
    (placement : Placement) (id : InstanceId) :
    (b.relocated card target placement).find? id =
      if id = card.id then some (card.movedTo target placement) else b.find? id := by
  have hids := nodup_ids_of_roster_perm (roster_relocated hb hcard target placement) hb
  split_ifs with hid
  · subst hid
    exact (find?_eq_some_iff hids).mpr ⟨rfl, target, mem_zone_relocated.mpr (.inr ⟨rfl, rfl⟩)⟩
  · refine Option.ext fun c => ?_
    rw [find?_eq_some_iff hids, find?_eq_some_iff hb]
    refine and_congr_right fun hc => exists_congr fun other => ?_
    rw [mem_zone_relocated]
    constructor
    · rintro (⟨hmem, -⟩ | ⟨-, rfl⟩)
      · exact hmem
      · exact absurd hc.symm hid
    · exact fun hmem => .inl ⟨hmem, fun heq => hid (hc ▸ heq)⟩

end SoloDuel.Board
