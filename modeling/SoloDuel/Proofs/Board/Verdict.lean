import Mathlib.Data.List.Induction
import Mathlib.Data.List.Pairwise
import SoloDuel.Proofs.Board.Moves
/-!
# The verdict on a board

The check goes through the cards once and keeps the numbers it has seen. That decides a condition on
all zones at once, and where the condition fails, the fault is about the first card in storage order
that something is held against.

* `Board.OnePlaceEach` — no number is in two places; `nodup_ids_iff` says that it is then listed
  once.
* `Board.Complaint` — what the check holds against a card; `InOrder` says that it is nothing.
* `Board.FirstComplaint` — the first card in storage order with which something is wrong.
* `Board.check_exact` — the check passes by that condition and reports that card.
-/

namespace SoloDuel.Board

variable {b : Board} {holder : ZoneName} {card : CardInstance} {fault : BoardFault}
  {earlier cards rest : List (ZoneName × CardInstance)}

/-! ## One place for each number -/

/-- No number is in two places, of one zone or of two. -/
def OnePlaceEach (b : Board) : Prop :=
  ∀ name other (i j : Nat) card c, (b.zone name)[i]? = some card → (b.zone other)[j]? = some c →
    card.id = c.id → name = other ∧ i = j

theorem ids_eq_flatMap (b : Board) :
    b.ids = ZoneName.all.flatMap fun name => (b.zone name).map (·.id) := by
  rw [ids, Board.cards, List.map_flatMap]
  simp only [List.map_map, Function.comp_def]

theorem OnePlaceEach.nodup_zone (h : b.OnePlaceEach) (name : ZoneName) :
    ((b.zone name).map (·.id)).Nodup := by
  rw [List.nodup_iff_getElem?_ne_getElem?]
  intro i j hij hj heq
  rw [List.length_map] at hj
  have hcard := List.getElem?_eq_getElem (Nat.lt_trans hij hj)
  have hc := List.getElem?_eq_getElem hj
  rw [List.getElem?_map, List.getElem?_map, hcard, hc, Option.map_some, Option.map_some,
    Option.some.injEq] at heq
  exact absurd (h name name i j _ _ hcard hc heq).2 (Nat.ne_of_lt hij)

theorem OnePlaceEach.disjoint (h : b.OnePlaceEach) {name other : ZoneName} (hne : name ≠ other) :
    List.Disjoint ((b.zone name).map (·.id)) ((b.zone other).map (·.id)) := by
  intro id hid hother
  obtain ⟨card, hcard, rfl⟩ := List.mem_map.mp hid
  obtain ⟨c, hc, hsame⟩ := List.mem_map.mp hother
  obtain ⟨i, hi⟩ := List.mem_iff_getElem?.mp hcard
  obtain ⟨j, hj⟩ := List.mem_iff_getElem?.mp hc
  exact hne (h name other i j card c hi hj hsame.symm).1

/-- The numbers in storage order are different exactly where no number is in two places. -/
theorem nodup_ids_iff : b.ids.Nodup ↔ b.OnePlaceEach := by
  constructor
  · intro h name other i j card c hcard hc hid
    obtain ⟨rfl, rfl⟩ :=
      eq_of_id_eq h (List.mem_of_getElem? hcard) (List.mem_of_getElem? hc) hid
    have hi : i < ((b.zone name).map (·.id)).length := by
      rw [List.length_map]
      exact (List.getElem?_eq_some_iff.mp hcard).1
    refine ⟨rfl, (List.getElem?_inj hi (zone_nodup h name)).mp ?_⟩
    rw [List.getElem?_map, List.getElem?_map, hcard, hc]
  · intro h
    have hdifferent : ZoneName.all.Nodup := by decide
    rw [ids_eq_flatMap, List.nodup_flatMap]
    exact ⟨fun name _ => h.nodup_zone name,
      hdifferent.pairwise_of_forall_ne fun _ _ _ _ hne => h.disjoint hne⟩

/-! ## Complaints -/

/-- What the check holds against a card in a zone when `earlier` are the cards before it. Where
several things are wrong it is the first of them. -/
inductive Complaint (earlier : List (ZoneName × CardInstance)) (holder : ZoneName)
    (card : CardInstance) : BoardFault → Prop
  | repeated : card.id ∈ earlier.map (·.2.id) → Complaint earlier holder card (.repeated card.id)
  | misplaced : card.id ∉ earlier.map (·.2.id) → card.location ≠ holder →
      Complaint earlier holder card (.misplaced card.id card.location holder)
  | mismatched : card.id ∉ earlier.map (·.2.id) → card.location = holder →
      card.field.isSome ≠ holder.isOnField →
      Complaint earlier holder card (.mismatched card.id holder)

/-- Nothing is wrong with a card in a zone when `earlier` are the cards before it. -/
def InOrder (earlier : List (ZoneName × CardInstance)) (holder : ZoneName) (card : CardInstance) :
    Prop :=
  card.id ∉ earlier.map (·.2.id) ∧ card.location = holder ∧ card.field.isSome = holder.isOnField

/-- Something is held against a card or nothing is. -/
theorem inOrder_or_complaint (earlier : List (ZoneName × CardInstance)) (holder : ZoneName)
    (card : CardInstance) :
    InOrder earlier holder card ∨ ∃ fault, Complaint earlier holder card fault := by
  by_cases hin : card.id ∈ earlier.map (·.2.id)
  · exact .inr ⟨_, .repeated hin⟩
  · by_cases hplaced : card.location = holder
    · by_cases hfielded : card.field.isSome = holder.isOnField
      · exact .inl ⟨hin, hplaced, hfielded⟩
      · exact .inr ⟨_, .mismatched hin hplaced hfielded⟩
    · exact .inr ⟨_, .misplaced hin hplaced⟩

theorem faultAmong_of_complaint (h : Complaint earlier holder card fault) :
    faultAmong (earlier.map (·.2.id)).reverse ((holder, card) :: rest) = some fault := by
  rw [faultAmong]
  cases h with
  | repeated hin => rw [if_pos (List.mem_reverse.mpr hin)]
  | misplaced hnew hplaced => rw [if_neg (mt List.mem_reverse.mp hnew), if_pos hplaced]
  | mismatched hnew hplaced hfielded =>
    have hfield : card.isOnField ≠ holder.isOnField := hfielded
    rw [if_neg (mt List.mem_reverse.mp hnew), if_neg (not_not.mpr hplaced), if_pos hfield]

theorem faultAmong_of_inOrder (h : InOrder earlier holder card) :
    faultAmong (earlier.map (·.2.id)).reverse ((holder, card) :: rest) =
      faultAmong ((earlier ++ [(holder, card)]).map (·.2.id)).reverse rest := by
  obtain ⟨hnew, hplaced, hfielded⟩ := h
  have hfield : card.isOnField = holder.isOnField := hfielded
  rw [faultAmong, if_neg (mt List.mem_reverse.mp hnew), if_neg (not_not.mpr hplaced),
    if_neg (not_not.mpr hfield), List.map_append, List.reverse_append]
  rfl

/-! ## The first complaint -/

/-- Nothing is wrong with any card of a list, each taken after those before it. -/
def AllInOrder (cards : List (ZoneName × CardInstance)) : Prop :=
  ∀ before holder card after, cards = before ++ (holder, card) :: after →
    InOrder before holder card

theorem allInOrder_nil : AllInOrder [] := fun _ _ _ _ h => by simp at h

theorem allInOrder_concat_iff : AllInOrder (cards ++ [(holder, card)]) ↔
    AllInOrder cards ∧ InOrder cards holder card := by
  constructor
  · intro h
    refine ⟨fun before other c after hcards => ?_, h cards holder card [] rfl⟩
    exact h before other c (after ++ [(holder, card)]) (by rw [hcards, List.append_assoc]; rfl)
  · rintro ⟨hcards, hcard⟩ before other c after heq
    -- the card is the last of the longer list or one of the shorter
    rcases List.eq_nil_or_concat after with rfl | ⟨after, last, rfl⟩
    · obtain ⟨rfl, hlast⟩ := List.append_inj' heq rfl
      cases hlast
      exact hcard
    · rw [List.concat_eq_append, ← List.cons_append, ← List.append_assoc] at heq
      exact hcards before other c after (List.append_inj' heq rfl).1

/-- Cards with which nothing is wrong are passed over. -/
theorem faultAmong_append (h : AllInOrder cards) (rest : List (ZoneName × CardInstance)) :
    faultAmong [] (cards ++ rest) = faultAmong (cards.map (·.2.id)).reverse rest := by
  induction cards using List.reverseRecOn generalizing rest with
  | nil => rfl
  | append_singleton cards p ih =>
    obtain ⟨hcards, hcard⟩ := allInOrder_concat_iff.mp h
    rw [List.append_assoc, ih hcards, List.singleton_append, faultAmong_of_inOrder hcard]

/-- The first card in storage order that something is held against, and what that is. -/
def FirstComplaint (b : Board) (fault : BoardFault) : Prop :=
  ∃ before holder card after, b.cards = before ++ (holder, card) :: after ∧ AllInOrder before ∧
    Complaint before holder card fault

/-- Something is wrong with a first card of a list, or with none. -/
theorem allInOrder_or_exists (cards : List (ZoneName × CardInstance)) :
    AllInOrder cards ∨ ∃ before holder card after fault,
      cards = before ++ (holder, card) :: after ∧ AllInOrder before ∧
        Complaint before holder card fault := by
  induction cards using List.reverseRecOn with
  | nil => exact .inl allInOrder_nil
  | append_singleton cards p ih =>
    obtain ⟨other, c⟩ := p
    obtain hcards | ⟨before, holder, card, after, fault, rfl, hbefore, hcomplaint⟩ := ih
    · obtain hcard | ⟨fault, hcomplaint⟩ := inOrder_or_complaint cards other c
      · exact .inl (allInOrder_concat_iff.mpr ⟨hcards, hcard⟩)
      · exact .inr ⟨cards, other, c, [], fault, rfl, hcards, hcomplaint⟩
    · exact .inr ⟨before, holder, card, after ++ [(other, c)], fault, by simp, hbefore, hcomplaint⟩

theorem fault?_eq_some_iff : b.fault? = some fault ↔ b.FirstComplaint fault := by
  have hreports : ∀ {fault}, b.FirstComplaint fault → b.fault? = some fault := by
    rintro fault ⟨before, holder, card, after, hcards, hbefore, hcomplaint⟩
    rw [fault?, hcards, faultAmong_append hbefore, faultAmong_of_complaint hcomplaint]
  refine ⟨fun h => ?_, hreports⟩
  obtain hall | ⟨before, holder, card, after, other, hsplit⟩ := allInOrder_or_exists b.cards
  · have hnone := faultAmong_append hall []
    rw [List.append_nil] at hnone
    rw [fault?, hnone] at h
    cases h
  · have hfirst : b.FirstComplaint other := ⟨before, holder, card, after, hsplit⟩
    rw [hreports hfirst] at h
    cases h
    exact hfirst

/-- **The check decides what a board must satisfy.** It passes exactly where no number is in two
places, every card records the zone that holds it and every card has field state exactly where that
zone is on the field. Otherwise the fault is about the first card in storage order, zone by zone
from the bottom, whose number occurred before or whose location or field state is wrong, looked at
in this order. -/
theorem check_exact (b : Board) :
    (b.check = .ok () ↔ b.OnePlaceEach ∧ ∀ name, ∀ card ∈ b.zone name,
      card.location = name ∧ card.field.isSome = name.isOnField) ∧
    ∀ fault, b.check = .error fault ↔
      ∃ complaint, fault = .board complaint ∧ b.FirstComplaint complaint := by
  constructor
  · rw [check_eq_ok_iff, ← nodup_ids_iff]
    constructor
    · intro h
      exact ⟨h.distinct, fun name card hcard =>
        ⟨h.placed name card hcard, h.fielded name card hcard⟩⟩
    · rintro ⟨hdistinct, hcards⟩
      exact ⟨hdistinct, fun name card hcard => (hcards name card hcard).1,
        fun name card hcard => (hcards name card hcard).2⟩
  · intro fault
    simp only [← fault?_eq_some_iff]
    rw [check]
    cases b.fault? with
    | none => simp
    | some complaint => simp [eq_comm]

/-- A copy in the hand and again in the monster zone, where it records the deck and has no field
state; behind it a card with field state in the graveyard. -/
def muddled : Board where
  hand := [.new ⟨1⟩ (.spell ⟨1⟩ "Spell" .normal) .hand]
  monsterZone := [.new ⟨1⟩ (.spell ⟨1⟩ "Spell" .normal) .deck]
  graveyard := [.new ⟨2⟩ (.spell ⟨1⟩ "Spell" .normal) .fieldZone]

/-- Of all that is wrong, the check reports that the copy is in two places. -/
theorem check_exact_muddled : muddled.check = .error (.board (.repeated ⟨1⟩)) ∧
    muddled.FirstComplaint (.repeated ⟨1⟩) ∧ ¬ muddled.OnePlaceEach := by
  obtain ⟨hpasses, hreports⟩ := check_exact muddled
  have hcheck : muddled.check = .error (.board (.repeated ⟨1⟩)) := rfl
  obtain ⟨complaint, hfault, hfirst⟩ := (hreports _).mp hcheck
  cases hfault
  refine ⟨hcheck, hfirst, fun h => ?_⟩
  have hplaces := h .hand .monsterZone 0 0 _ _ rfl rfl rfl
  cases hplaces.1

end SoloDuel.Board
