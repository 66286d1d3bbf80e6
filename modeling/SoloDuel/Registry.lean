import SoloDuel.Ascending
import SoloDuel.Fault
/-!
# Register-once tables

A table keeps its entries in the order they were registered and never holds an identifier twice:
the first registration of an identifier wins and later ones are refused. Listings by identifier
are ascending.

* `Registry.register`, `Registry.get` — add an entry, look one up.
* `Registry.ids`, `Registry.toList` — the ascending views.
* `Registration`, `registerEach` — a run of registrations that stops at the first one refused.
-/

namespace SoloDuel

/-- A table with a name, which messages show. -/
structure Registry (κ ν : Type) where
  /-- What messages call the table. -/
  name : String
  /-- The entries, in order of registration. -/
  entries : List (κ × ν)
  /-- No identifier is registered twice. -/
  distinct : (entries.map Prod.fst).Nodup

namespace Registry

variable {κ ν : Type}

/-- A table without entries. -/
def empty (name : String) : Registry κ ν := ⟨name, [], List.nodup_nil⟩

/-- The registered identifiers, in order of registration. -/
def keys (r : Registry κ ν) : List κ := r.entries.map Prod.fst

/-- The registered values, in order of registration. -/
def values (r : Registry κ ν) : List ν := r.entries.map Prod.snd

/-- The number of entries. -/
def size (r : Registry κ ν) : Nat := r.entries.length

/-- Whether there are no entries. -/
def isEmpty (r : Registry κ ν) : Bool := r.entries.isEmpty

/-- The table with every entry removed. -/
def clear (r : Registry κ ν) : Registry κ ν := empty r.name

section Lookup

variable [DecidableEq κ]

/-- The value registered under an identifier, if there is one. -/
def find? (r : Registry κ ν) (key : κ) : Option ν :=
  (r.entries.find? fun entry => entry.1 = key).map Prod.snd

/-- Whether an identifier is registered. -/
def contains (r : Registry κ ν) (key : κ) : Bool := r.keys.contains key

/-- The table with one entry added at the end. -/
def push (r : Registry κ ν) (key : κ) (value : ν) (h : key ∉ r.keys) : Registry κ ν where
  name := r.name
  entries := r.entries ++ [(key, value)]
  distinct := by
    rw [List.map_append, List.nodup_append]
    refine ⟨r.distinct, List.Pairwise.cons (by simp) .nil, fun a ha b hb => ?_⟩
    rw [List.map_cons, List.map_nil, List.mem_singleton] at hb
    rintro rfl
    subst hb
    exact h ha

end Lookup

variable [Identifier κ]

/-- The entries in ascending order of identifier. -/
def toList (r : Registry κ ν) : List (κ × ν) :=
  sortAscending (fun entry => Identifier.rank entry.1) r.entries

/-- The registered identifiers in ascending order. -/
def ids (r : Registry κ ν) : List κ := r.toList.map Prod.fst

variable [DecidableEq κ]

/-- Adds an entry. One whose identifier is registered already is refused and not added. -/
def register (r : Registry κ ν) (key : κ) (value : ν) : Registry κ ν × Option RegistryFault :=
  if h : key ∈ r.keys then (r, some (.duplicate r.name (Identifier.text key)))
  else (r.push key value h, none)

section Register

variable {r r' : Registry κ ν} {key : κ} {value : ν} {fault : RegistryFault}

theorem entries_of_register (h : r.register key value = (r', none)) :
    r'.entries = r.entries ++ [(key, value)] := by
  unfold register at h
  split at h
  · cases h
  · cases h
    rfl

theorem eq_of_register_fault (h : r.register key value = (r', some fault)) : r' = r := by
  unfold register at h
  split at h
  · cases h
    rfl
  · cases h

end Register

/-- The value registered under an identifier. The fault names every identifier there is. -/
def get (r : Registry κ ν) (key : κ) : Except RegistryFault ν :=
  match r.find? key with
  | some value => .ok value
  | none => .error (.unknown r.name (Identifier.text key) (r.ids.map Identifier.text))

end Registry

/-- One registration into something of type `σ`. What there is after it is handed back, with the
fault if it was refused. -/
abbrev Registration (ε σ : Type) := σ → σ × Option ε

/-- Makes registrations in order up to the first one refused. What was registered before it stays;
its fault is handed back. -/
def registerEach {ε σ : Type} : List (Registration ε σ) → Registration ε σ
  | [], s => (s, none)
  | registration :: rest, s =>
    match registration s with
    | (t, none) => registerEach rest t
    | (t, some fault) => (t, some fault)

end SoloDuel
