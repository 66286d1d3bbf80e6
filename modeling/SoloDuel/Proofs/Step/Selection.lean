import Mathlib.Data.List.Dedup
import SoloDuel.Proofs.Board.Moves
import SoloDuel.Step.Basic
/-!
# What is an answer to a selection

Chosen cards are an answer exactly when they are as many as asked for, different, and candidates.

* `CardSelection.validate_eq_ok_iff` — the answers to a selection.
* `CardSelection.exists_answer_iff` — there is one exactly when there are enough different
  candidates and the bounds do not exclude each other.
* `mem_candidates_fromZone`, `candidates_fromZone_nodup` — the candidates from a zone.
-/

namespace SoloDuel.CardSelection

variable {sel : CardSelection} {s : Snapshot} {chosen candidates : List InstanceId}

theorem validateEach_eq_ok_iff {earlier : List InstanceId} :
    validateEach candidates earlier chosen = .ok () ↔
      chosen.Nodup ∧ ∀ id ∈ chosen, id ∉ earlier ∧ id ∈ candidates := by
  induction chosen generalizing earlier with
  | nil => simp [validateEach]
  | cons id rest ih =>
    rw [validateEach]
    split_ifs with htwice hcandidate
    · simp [htwice]
    · rw [ih, List.nodup_cons, List.forall_mem_cons]
      simp only [List.mem_cons, not_or]
      constructor
      · rintro ⟨hnodup, hrest⟩
        exact ⟨⟨fun hmem => (hrest id hmem).1.1 rfl, hnodup⟩, ⟨htwice, hcandidate⟩,
          fun other hother => ⟨(hrest other hother).1.2, (hrest other hother).2⟩⟩
      · rintro ⟨⟨hfresh, hnodup⟩, -, hrest⟩
        exact ⟨hnodup, fun other hother => ⟨⟨fun heq => hfresh (heq ▸ hother),
          (hrest other hother).1⟩, (hrest other hother).2⟩⟩
    · simp [hcandidate]

/-- **The answers to a selection.** -/
theorem validate_eq_ok_iff :
    sel.validate s chosen = .ok () ↔
      sel.min.toNat ≤ chosen.length ∧ chosen.length ≤ sel.max.toNat ∧ chosen.Nodup ∧
        ∀ id ∈ chosen, id ∈ sel.candidates s := by
  unfold validate
  split_ifs with hcount
  · simp only [false_iff]
    rintro ⟨hmin, hmax, -⟩
    omega
  · rw [validateEach_eq_ok_iff]
    simp only [List.not_mem_nil, not_false_eq_true, true_and]
    constructor
    · rintro ⟨hnodup, hmem⟩
      exact ⟨by omega, by omega, hnodup, hmem⟩
    · rintro ⟨-, -, hnodup, hmem⟩
      exact ⟨hnodup, hmem⟩

theorem code_of_validateEach {earlier : List InstanceId} {refusal : Refusal}
    (h : validateEach candidates earlier chosen = .error refusal) :
    refusal.code = .invalidSelection := by
  induction chosen generalizing earlier with
  | nil => cases h
  | cons id rest ih =>
    rw [validateEach] at h
    split_ifs at h
    · cases h
      rfl
    · exact ih h
    · cases h
      rfl

/-- Chosen cards that are no answer are refused for being none. -/
theorem code_of_validate {refusal : Refusal} (h : sel.validate s chosen = .error refusal) :
    refusal.code = .invalidSelection := by
  unfold validate at h
  split_ifs at h
  · cases h
    rfl
  · exact code_of_validateEach h

/-- **When there is an answer.** A candidate can be chosen only once, so what counts is how many
different ones there are. -/
theorem exists_answer_iff :
    (∃ chosen, sel.validate s chosen = .ok ()) ↔
      sel.min ≤ sel.max ∧ sel.min.toNat ≤ (sel.candidates s).dedup.length := by
  simp only [validate_eq_ok_iff, UInt64.le_iff_toNat_le]
  constructor
  · rintro ⟨chosen, hmin, hmax, hnodup, hmem⟩
    have hsub : chosen ⊆ (sel.candidates s).dedup := fun id hid =>
      List.mem_dedup.mpr (hmem id hid)
    exact ⟨Nat.le_trans hmin hmax, Nat.le_trans hmin (hnodup.length_le_of_subset hsub)⟩
  · rintro ⟨hbounds, henough⟩
    have hlength := List.length_take_of_le henough
    refine ⟨(sel.candidates s).dedup.take sel.min.toNat, Nat.le_of_eq hlength.symm, ?_,
      (List.take_sublist _ _).nodup (List.nodup_dedup _), fun id hid => ?_⟩
    · exact Nat.le_trans (Nat.le_of_eq hlength) hbounds
    · exact List.mem_dedup.mp (List.mem_of_mem_take hid)

/-- With enough candidates, all different, there is an answer. -/
theorem exists_answer (hnodup : (sel.candidates s).Nodup) (hbounds : sel.min ≤ sel.max)
    (henough : sel.min.toNat ≤ (sel.candidates s).length) :
    ∃ chosen, sel.validate s chosen = .ok () :=
  exists_answer_iff.mpr ⟨hbounds, by rwa [hnodup.dedup]⟩

variable {name : ZoneName} {filter : CardFilter} {min max : UInt64}

theorem mem_candidates_fromZone {id : InstanceId} :
    id ∈ (fromZone name filter min max).candidates s ↔
      ∃ card ∈ s.zone name, filter.accepts card = true ∧ card.id = id := by
  simp [candidates, fromZone, and_assoc]

theorem candidates_fromZone_nodup (hs : s.board.ids.Nodup) :
    ((fromZone name filter min max).candidates s).Nodup :=
  (List.filter_sublist.map _).nodup (Board.zone_nodup hs name)

end SoloDuel.CardSelection
