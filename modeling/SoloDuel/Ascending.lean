/-!
# Ascending lists

Sorting by a natural-number rank. Elements of equal rank keep their order.

* `insertAscending` — put one element in its place.
* `sortAscending` — a rearrangement of a list in ascending rank (`perm_sortAscending`,
  `pairwise_sortAscending`).
-/

namespace SoloDuel

variable {α : Type}

/-- Puts `a` before the first element of at least its rank. -/
def insertAscending (rank : α → Nat) (a : α) : List α → List α
  | [] => [a]
  | b :: rest => if rank a ≤ rank b then a :: b :: rest else b :: insertAscending rank a rest

/-- The elements of a list in ascending rank. -/
def sortAscending (rank : α → Nat) : List α → List α
  | [] => []
  | a :: rest => insertAscending rank a (sortAscending rank rest)

theorem perm_insertAscending (rank : α → Nat) (a : α) (xs : List α) :
    (insertAscending rank a xs).Perm (a :: xs) := by
  induction xs with
  | nil => exact .refl _
  | cons b rest ih =>
    rw [insertAscending]
    split
    · exact .refl _
    · exact (ih.cons b).trans (.swap a b rest)

/-- Sorting loses and adds nothing. -/
theorem perm_sortAscending (rank : α → Nat) (xs : List α) : (sortAscending rank xs).Perm xs := by
  induction xs with
  | nil => exact .refl _
  | cons a rest ih => exact (perm_insertAscending rank a _).trans (ih.cons a)

theorem pairwise_insertAscending (rank : α → Nat) (a : α) {xs : List α}
    (h : xs.Pairwise fun x y => rank x ≤ rank y) :
    (insertAscending rank a xs).Pairwise fun x y => rank x ≤ rank y := by
  induction xs with
  | nil => exact List.pairwise_singleton ..
  | cons b rest ih =>
    have hb := List.pairwise_cons.mp h
    rw [insertAscending]
    split
    · rename_i hab
      refine List.pairwise_cons.mpr ⟨fun y hy => ?_, h⟩
      rcases List.mem_cons.mp hy with rfl | hy
      · exact hab
      · exact Nat.le_trans hab (hb.1 y hy)
    · rename_i hab
      refine List.pairwise_cons.mpr ⟨fun y hy => ?_, ih hb.2⟩
      rcases List.mem_cons.mp ((perm_insertAscending rank a rest).mem_iff.mp hy) with rfl | hy
      · exact Nat.le_of_not_le hab
      · exact hb.1 y hy

/-- Sorting puts a list in ascending rank. -/
theorem pairwise_sortAscending (rank : α → Nat) (xs : List α) :
    (sortAscending rank xs).Pairwise fun x y => rank x ≤ rank y := by
  induction xs with
  | nil => exact List.Pairwise.nil
  | cons a rest ih => exact pairwise_insertAscending rank a ih

end SoloDuel
