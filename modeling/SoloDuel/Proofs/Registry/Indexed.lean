import SoloDuel.Proofs.Registry.Registrations
import SoloDuel.Registry.Indexed
/-!
# What an index lists

An index is never out of step with its table, so that the entries of a group are those a search of
the table would find, in the same order. An indexed table is registered in as its table is.

* `IndexedRegistry.ofGroup_eq` — a group is what a search finds.
* `IndexedRegistry.map_register` — the table accepts and refuses as it would without an index;
  `IndexedRegistry.atomic_register` — a refusal leaves both as they were.
-/

namespace SoloDuel.IndexedRegistry

variable {κ ν γ : Type} [DecidableEq γ] {groupOf : ν → γ} [DecidableEq κ]
  {r r' : IndexedRegistry κ ν groupOf} {key : κ} {value : ν} {group : γ}

/-- **A group is listed as a search finds it.** -/
theorem ofGroup_eq (r : IndexedRegistry κ ν groupOf) (group : γ) :
    r.ofGroup group = r.values.filter (groupOf · = group) := by
  -- an identifier that is filed leads back to the entry it was filed for
  have hfind : ∀ entry ∈ r.entries, r.find? entry.1 = some entry.2 := fun entry hentry =>
    Registry.find?_of_mem hentry
  have hlookup : ∀ entries : List (κ × ν), entries ⊆ r.entries →
      (entries.map Prod.fst).filterMap r.find? = entries.map Prod.snd := by
    intro entries hsubset
    rw [List.filterMap_map, ← List.filterMap_eq_map]
    exact List.filterMap_congr fun entry hentry => hfind entry (hsubset hentry)
  rw [ofGroup, r.filed, hlookup _ (List.filter_subset_self _), Registry.values, List.filter_map]
  rfl

variable [Identifier κ]

/-- Registering changes the table, and refuses, as it would without an index. -/
theorem map_register (r : IndexedRegistry κ ν groupOf) (key : κ) (value : ν) :
    (r.register key value).map toRegistry id = r.toRegistry.register key value := by
  unfold register
  split
  · rename_i table fault h
    exact h.symm
  · rename_i table h
    exact h.symm

theorem toRegistry_register (r : IndexedRegistry κ ν groupOf) (key : κ) (value : ν) :
    (r.register key value).1.toRegistry = (r.toRegistry.register key value).1 :=
  congrArg Prod.fst (r.map_register key value)

/-- **A refused registration changes neither the table nor the index.** -/
theorem atomic_register (key : κ) (value : ν) :
    Registration.Atomic fun r : IndexedRegistry κ ν groupOf => r.register key value := by
  intro r fault
  simp only [register]
  split
  · rename_i table other htable
    obtain rfl := Registry.eq_of_register_fault htable
    exact fun _ => rfl
  · exact nofun

end SoloDuel.IndexedRegistry
