import Mathlib.Data.List.Nodup
import Mathlib.Tactic.SplitIfs
import SoloDuel.Zone.Board
/-!
# Boards with which nothing is wrong

What the check of a board decides, and what finding a copy on a board that passes it means. A copy
is then in one place only, so that it can be said zone by zone which copy an identifier stands for.

* `Board.Sound` — nothing is wrong; `check_eq_ok_iff` says that the check decides it.
* `Board.roster` — the copies on the board with their species.
* `find?_eq_some_iff` — the copy found is the one in the zone it records.
-/

namespace SoloDuel

namespace Board

variable {b : Board} {id : InstanceId} {card : CardInstance} {name : ZoneName}

/-- Boards with the same zones are the same. -/
theorem ext_zone {a b : Board} (h : ∀ name, a.zone name = b.zone name) : a = b := by
  cases a
  cases b
  simp only [Board.mk.injEq]
  exact ⟨h .deck, h .hand, h .monsterZone, h .spellTrapZone, h .fieldZone, h .graveyard,
    h .banished⟩

theorem mem_cards {p : ZoneName × CardInstance} : p ∈ b.cards ↔ p.2 ∈ b.zone p.1 := by
  obtain ⟨name, card⟩ := p
  simp only [cards, List.mem_flatMap, List.mem_map, Prod.mk.injEq]
  constructor
  · rintro ⟨other, -, c, hc, rfl, rfl⟩
    exact hc
  · intro h
    exact ⟨name, name.mem_all, card, h, rfl, rfl⟩

/-- The copies on the board with their species, in storage order. -/
def roster (b : Board) : List (InstanceId × CardData) := b.cards.map fun p => (p.2.id, p.2.data)

theorem map_fst_roster (b : Board) : b.roster.map Prod.fst = b.ids := by
  rw [roster, ids, List.map_map]
  rfl

/-! ## The check -/

/-- A board with which nothing is wrong. -/
structure Sound (b : Board) : Prop where
  /-- No copy is in two places. -/
  distinct : b.ids.Nodup
  /-- A copy records the zone that holds it. -/
  placed : ∀ name, ∀ card ∈ b.zone name, card.location = name
  /-- A copy has field state exactly on the field. -/
  fielded : ∀ name, ∀ card ∈ b.zone name, card.isOnField = name.isOnField

theorem faultAmong_cons_eq_none_iff {seen : List InstanceId} {holder : ZoneName}
    {rest : List (ZoneName × CardInstance)} :
    faultAmong seen ((holder, card) :: rest) = none ↔
      card.id ∉ seen ∧ card.location = holder ∧ card.isOnField = holder.isOnField ∧
        faultAmong (card.id :: seen) rest = none := by
  rw [faultAmong]
  split_ifs with hseen hplaced hfielded
  · simp [hseen]
  · simp [hplaced]
  · simp [hfielded]
  · rw [not_not] at hplaced hfielded
    simp [hseen, hplaced, hfielded]

theorem faultAmong_eq_none_iff {seen : List InstanceId} {cards : List (ZoneName × CardInstance)} :
    faultAmong seen cards = none ↔
      (cards.map (·.2.id)).Nodup ∧ ∀ p ∈ cards, p.2.id ∉ seen ∧ p.2.location = p.1 ∧
        p.2.isOnField = p.1.isOnField := by
  induction cards generalizing seen with
  | nil => simp [faultAmong]
  | cons p rest ih =>
    obtain ⟨holder, card⟩ := p
    rw [faultAmong_cons_eq_none_iff, ih, List.map_cons, List.nodup_cons, List.forall_mem_cons]
    simp only [List.mem_cons, not_or, List.mem_map, not_exists, not_and]
    constructor
    · rintro ⟨hseen, hplaced, hfielded, hnodup, hrest⟩
      exact ⟨⟨fun p hp => (hrest p hp).1.1, hnodup⟩, ⟨hseen, hplaced, hfielded⟩,
        fun p hp => ⟨(hrest p hp).1.2, (hrest p hp).2⟩⟩
    · rintro ⟨⟨hfresh, hnodup⟩, ⟨hseen, hplaced, hfielded⟩, hrest⟩
      exact ⟨hseen, hplaced, hfielded, hnodup,
        fun p hp => ⟨⟨hfresh p hp, (hrest p hp).1⟩, (hrest p hp).2⟩⟩

theorem fault?_eq_none_iff : b.fault? = none ↔ b.Sound := by
  rw [fault?, faultAmong_eq_none_iff]
  constructor
  · rintro ⟨hnodup, h⟩
    exact ⟨hnodup, fun name card hc => (h (name, card) (mem_cards.mpr hc)).2.1,
      fun name card hc => (h (name, card) (mem_cards.mpr hc)).2.2⟩
  · intro h
    exact ⟨h.distinct, fun p hp => ⟨List.not_mem_nil, h.placed p.1 p.2 (mem_cards.mp hp),
      h.fielded p.1 p.2 (mem_cards.mp hp)⟩⟩

/-- **The check passes exactly the sound boards.** -/
theorem check_eq_ok_iff : b.check = .ok () ↔ b.Sound := by
  rw [← fault?_eq_none_iff, check]
  cases b.fault? <;> simp

/-! ## Finding a copy -/

theorem find?_eq (b : Board) (id : InstanceId) :
    b.find? id = (b.cards.find? fun p => p.2.id = id).map Prod.snd := by
  rw [find?, cards, List.find?_flatMap, List.map_findSome?]
  congr 1
  funext name
  simp [List.find?_map, Function.comp_def]

/-- Where the copy that is found is. -/
theorem mem_zone_of_find? (h : b.find? id = some card) :
    card.id = id ∧ ∃ name, card ∈ b.zone name := by
  rw [find?_eq, Option.map_eq_some_iff] at h
  obtain ⟨p, hp, rfl⟩ := h
  exact ⟨by simpa using List.find?_some hp, p.1, mem_cards.mp (List.mem_of_find?_eq_some hp)⟩

theorem eq_of_id_eq (h : b.ids.Nodup) {other : ZoneName} {c : CardInstance}
    (hcard : card ∈ b.zone name) (hc : c ∈ b.zone other) (hid : card.id = c.id) :
    name = other ∧ card = c := by
  have heq : ((name, card) : ZoneName × CardInstance) = (other, c) :=
    List.inj_on_of_nodup_map h (mem_cards.mpr hcard) (mem_cards.mpr hc) hid
  exact ⟨congrArg Prod.fst heq, congrArg Prod.snd heq⟩

/-- The copy in a zone is the one that is found under its number. -/
theorem find?_of_mem (h : b.ids.Nodup) (hcard : card ∈ b.zone name) :
    b.find? card.id = some card := by
  cases hfind : b.cards.find? (fun p => p.2.id = card.id) with
  | none =>
    rw [List.find?_eq_none] at hfind
    exact absurd (by simp) (hfind (name, card) (mem_cards.mpr hcard))
  | some p =>
    have hid : p.2.id = card.id := by simpa using List.find?_some hfind
    have heq := eq_of_id_eq h (mem_cards.mp (List.mem_of_find?_eq_some hfind)) hcard hid
    rw [find?_eq, hfind, Option.map_some, heq.2]

theorem find?_eq_some_iff (h : b.ids.Nodup) :
    b.find? id = some card ↔ card.id = id ∧ ∃ name, card ∈ b.zone name := by
  constructor
  · exact mem_zone_of_find?
  · rintro ⟨rfl, name, hcard⟩
    exact find?_of_mem h hcard

theorem find?_eq_none_iff : b.find? id = none ↔ ∀ name, ∀ card ∈ b.zone name, card.id ≠ id := by
  rw [find?_eq, Option.map_eq_none_iff, List.find?_eq_none]
  constructor
  · intro h name card hcard hid
    exact h (name, card) (mem_cards.mpr hcard) (by simpa using hid)
  · intro h p hp hid
    exact h p.1 p.2 (mem_cards.mp hp) (by simpa using hid)

theorem holds_eq_true_iff : b.holds name id = true ↔ ∃ card ∈ b.zone name, card.id = id := by
  simp [holds]

/-- A copy that is not found is held by no zone. -/
theorem find?_eq_none_iff_holds : b.find? id = none ↔ ∀ name, b.holds name id = false := by
  simp [find?_eq_none_iff, holds]

end Board

end SoloDuel
