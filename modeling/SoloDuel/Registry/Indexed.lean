import SoloDuel.Registry
/-!
# Register-once tables with an index

A table whose identifiers are also filed by the group of what is registered, so that a group is
listed without a search. An entry is added first and filed then; one that the table refuses is not
filed.

* `Index.file`, `Index.of` — file an identifier under a group, list the identifiers of one.
* `IndexedRegistry.register` — add an entry and file it.
* `IndexedRegistry.ofGroup` — what is registered of a group, in the order of registration.
-/

namespace SoloDuel

/-- Identifiers filed by group, in the order in which they were filed. A group has a drawer once
something is filed under it. -/
abbrev Index (γ κ : Type) := List (γ × List κ)

namespace Index

variable {γ κ : Type} [DecidableEq γ]

/-- The identifiers filed under a group. -/
def of (index : Index γ κ) (group : γ) : List κ :=
  match index.find? fun drawer => drawer.1 = group with
  | some drawer => drawer.2
  | none => []

/-- Files an identifier under a group, behind those that are there. -/
def file (group : γ) (key : κ) : Index γ κ → Index γ κ
  | [] => [(group, [key])]
  | drawer :: rest =>
    if drawer.1 = group then (drawer.1, drawer.2 ++ [key]) :: rest
    else drawer :: file group key rest

variable {index : Index γ κ} {group other : γ}

theorem of_cons (drawer : γ × List κ) :
    Index.of (drawer :: index) other = if drawer.1 = other then drawer.2 else index.of other := by
  rw [of, List.find?_cons]
  by_cases h : drawer.1 = other <;> simp [h, of]

/-- Filing changes the list of the one group only. -/
theorem of_file (key : κ) :
    (index.file group key).of other = index.of other ++ if group = other then [key] else [] := by
  induction index with
  | nil =>
    rw [file, of_cons]
    by_cases h : group = other <;> simp [h, of]
  | cons drawer rest ih =>
    rw [file]
    by_cases hdrawer : drawer.1 = group
    · rw [if_pos hdrawer, of_cons, of_cons]
      by_cases h : group = other <;> simp [h, hdrawer]
    · rw [if_neg hdrawer, of_cons, of_cons, ih]
      by_cases h : drawer.1 = other
      · have hgroup : group ≠ other := fun heq => hdrawer (h.trans heq.symm)
        simp [h, hgroup]
      · rw [if_neg h, if_neg h]

end Index

/-- A table whose identifiers are filed under the groups of what is registered. -/
structure IndexedRegistry (κ ν : Type) {γ : Type} [DecidableEq γ] (groupOf : ν → γ) extends
    Registry κ ν where
  /-- The identifiers by group. -/
  index : Index γ κ
  /-- Each group lists the identifiers of its entries, in the order of registration. -/
  filed : ∀ group, index.of group =
    (entries.filter fun entry => groupOf entry.2 = group).map Prod.fst

namespace IndexedRegistry

variable {κ ν γ : Type} [DecidableEq γ] {groupOf : ν → γ}

/-- A table without entries. -/
def empty (name : String) : IndexedRegistry κ ν groupOf :=
  { Registry.empty name with index := [], filed := fun _ => rfl }

variable [DecidableEq κ]

/-- What is registered of a group, in the order of registration. -/
def ofGroup (r : IndexedRegistry κ ν groupOf) (group : γ) : List ν :=
  (r.index.of group).filterMap r.find?

variable [Identifier κ]

/-- Adds an entry and files it under its group. One that the table refuses is not filed. -/
def register (r : IndexedRegistry κ ν groupOf) (key : κ) (value : ν) :
    IndexedRegistry κ ν groupOf × Option RegistryFault :=
  match h : r.toRegistry.register key value with
  | (table, some fault) =>
    ({ toRegistry := table
       index := r.index
       filed := Registry.eq_of_register_fault h ▸ r.filed }, some fault)
  | (table, none) =>
    ({ toRegistry := table
       index := r.index.file (groupOf value) key
       filed := fun group => by
         rw [Registry.entries_of_register h, List.filter_append, List.map_append, Index.of_file,
           r.filed]
         by_cases hgroup : groupOf value = group <;> simp [hgroup] }, none)

end IndexedRegistry

end SoloDuel
