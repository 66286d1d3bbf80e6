import SoloDuel.Proofs.Registry.Lookup
/-!
# Ascending listings

Different identifiers have different ranks, so that a listing in ascending order is strictly
ascending and does not depend on the order in which its entries arrived.

* `pairwise_lt_sortAscending`, `sortAscending_eq_of_perm` — things with an identifier of their own,
  in ascending order.
* `Registry.pairwise_ids`, `Registry.mem_ids` — the identifiers of a table.
* `Registry.forall₂_toList` — the entries go with the identifiers.
-/

namespace SoloDuel

section Sorting

variable {α κ : Type} [Identifier κ] {key : α → κ} {xs ys : List α}

/-- Things with different identifiers are listed in strictly ascending order. -/
theorem pairwise_lt_sortAscending (h : (xs.map key).Nodup) :
    (sortAscending (fun a => Identifier.rank (key a)) xs).Pairwise fun a b =>
      Identifier.rank (key a) < Identifier.rank (key b) := by
  have hle := pairwise_sortAscending (fun a => Identifier.rank (key a)) xs
  have hnodup : ((sortAscending (fun a => Identifier.rank (key a)) xs).map key).Nodup :=
    ((perm_sortAscending _ xs).map key).nodup_iff.mpr h
  refine (hle.and (List.pairwise_map.mp hnodup)).imp fun ⟨hab, hkey⟩ => ?_
  exact Nat.lt_of_le_of_ne hab fun heq => hkey (Identifier.rank_injective heq)

/-- The order in which such things arrive does not show. -/
theorem sortAscending_eq_of_perm (hperm : xs.Perm ys) (h : (xs.map key).Nodup) :
    sortAscending (fun a => Identifier.rank (key a)) xs =
      sortAscending (fun a => Identifier.rank (key a)) ys := by
  have hsorted := (perm_sortAscending (fun a => Identifier.rank (key a)) xs).trans
    (hperm.trans (perm_sortAscending (fun a => Identifier.rank (key a)) ys).symm)
  refine List.Perm.eq_of_pairwise (fun a b _ _ hab hba => ?_) (pairwise_lt_sortAscending h)
    (pairwise_lt_sortAscending ((hperm.map key).nodup_iff.mp h)) hsorted
  exact absurd (Nat.lt_trans hab hba) (Nat.lt_irrefl _)

end Sorting

namespace Registry

variable {κ ν : Type} [Identifier κ] {r : Registry κ ν} {key : κ}

theorem toList_perm (r : Registry κ ν) : r.toList.Perm r.entries := perm_sortAscending _ _

theorem ids_perm (r : Registry κ ν) : r.ids.Perm r.keys := r.toList_perm.map Prod.fst

theorem mem_ids : key ∈ r.ids ↔ key ∈ r.keys := r.ids_perm.mem_iff

/-- The identifiers are listed in strictly ascending order. -/
theorem pairwise_ids (r : Registry κ ν) :
    r.ids.Pairwise fun a b => Identifier.rank a < Identifier.rank b := by
  rw [ids, List.pairwise_map]
  exact pairwise_lt_sortAscending r.distinct

variable [DecidableEq κ]

/-- The entries are listed as their identifiers are, each with what is found under it. -/
theorem forall₂_toList (r : Registry κ ν) :
    List.Forall₂ (fun key entry => entry.1 = key ∧ r.get key = .ok entry.2) r.ids r.toList := by
  rw [ids, List.forall₂_map_left_iff, List.forall₂_same]
  intro entry hentry
  exact ⟨rfl, get_eq_ok (find?_of_mem (r.toList_perm.mem_iff.mp hentry))⟩

end Registry

end SoloDuel
