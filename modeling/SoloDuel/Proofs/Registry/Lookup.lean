import Mathlib.Data.List.Forall2
import Mathlib.Data.List.Nodup
import SoloDuel.Registry
/-!
# Looking things up in a table

Registering adds an entry at the end, unless its identifier has one. A table answers for the
identifiers that are registered. Where several things are looked up in order, the first one whose
identifier is not registered is the one that the fault is about.

* `Registry.register_of_mem`, `Registry.register_of_notMem` — which registrations are refused.
* `Registry.find?_eq_none_iff` — the identifiers without an entry.
* `Registry.FirstMissing` — what the fault of several look-ups is about; `exists_firstMissing_iff`
  says when there is one.
* `FirstRefused` — the same for look-ups of any kind; `firstRefused_get_iff` says that it is the
  same, and `exists_found_or_firstRefused` that otherwise all is found.
* `mapM_get_eq_ok`, `mapM_get_eq_error_iff` — what several look-ups give; `exists_valueOf` has the
  values they find as one function.
-/

namespace SoloDuel

/-- A sequence is refused where its first part is, or its second after the first succeeded. -/
theorem bind_eq_error {ε α β : Type} {x : Except ε α} {f : α → Except ε β} {fault : ε} :
    (x >>= f) = .error fault ↔ x = .error fault ∨ ∃ a, x = .ok a ∧ f a = .error fault := by
  cases x with
  | error other => simp [bind, Except.bind]
  | ok a => simp [bind, Except.bind]

/-- Of some things that are looked up in order, the fault of the first that is refused. -/
inductive FirstRefused {α β : Type} (lookup : α → Except RegistryFault β) :
    List α → RegistryFault → Prop
  | here {x : α} {rest : List α} {fault : RegistryFault} : lookup x = .error fault →
      FirstRefused lookup (x :: rest) fault
  | later {x : α} {rest : List α} {y : β} {fault : RegistryFault} : lookup x = .ok y →
      FirstRefused lookup rest fault → FirstRefused lookup (x :: rest) fault

/-- Of some things that are looked up, all are found or a first one is refused. -/
theorem exists_found_or_firstRefused {α β : Type} (lookup : α → Except RegistryFault β)
    (things : List α) :
    (∃ found, List.Forall₂ (fun x y => lookup x = .ok y) things found) ∨
      ∃ fault, FirstRefused lookup things fault := by
  induction things with
  | nil => exact .inl ⟨[], .nil⟩
  | cons x rest ih =>
    cases hx : lookup x with
    | error fault => exact .inr ⟨fault, .here hx⟩
    | ok y =>
      obtain ⟨found, hfound⟩ | ⟨fault, hfault⟩ := ih
      · exact .inl ⟨y :: found, .cons hx hfound⟩
      · exact .inr ⟨fault, .later hx hfault⟩

theorem FirstRefused.exists_mem {α β : Type} {lookup : α → Except RegistryFault β}
    {things : List α} {fault : RegistryFault} (h : FirstRefused lookup things fault) :
    ∃ x ∈ things, lookup x = .error fault := by
  induction h with
  | here hx => exact ⟨_, List.mem_cons_self, hx⟩
  | later _ _ ih =>
    obtain ⟨x, hmem, hx⟩ := ih
    exact ⟨x, List.mem_cons_of_mem _ hmem, hx⟩

namespace Registry

variable {κ ν α β : Type} [Identifier κ] [DecidableEq κ] {r r' : Registry κ ν} {key : κ}
  {value : ν} {fault : RegistryFault}

omit [Identifier κ] in
theorem find?_eq_none_iff : r.find? key = none ↔ key ∉ r.keys := by
  rw [find?, Option.map_eq_none_iff, List.find?_eq_none, keys, List.mem_map]
  constructor
  · rintro h ⟨entry, hentry, rfl⟩
    exact h entry hentry (decide_eq_true rfl)
  · intro h entry hentry heq
    exact h ⟨entry, hentry, of_decide_eq_true heq⟩

omit [Identifier κ] in
theorem exists_find?_iff : (∃ value, r.find? key = some value) ↔ key ∈ r.keys := by
  rw [← Option.isSome_iff_exists, ← not_iff_not, ← find?_eq_none_iff, Option.not_isSome_iff_eq_none]

omit [Identifier κ] in
/-- What is found under the identifier of an entry is its value. -/
theorem find?_of_mem {entry : κ × ν} (h : entry ∈ r.entries) :
    r.find? entry.1 = some entry.2 := by
  obtain ⟨value, hvalue⟩ := exists_find?_iff.mpr (List.mem_map_of_mem h : entry.1 ∈ r.keys)
  obtain ⟨found, hfound, rfl⟩ := Option.map_eq_some_iff.mp hvalue
  have hid : found.1 = entry.1 := by simpa using List.find?_some hfound
  rw [hvalue, List.inj_on_of_nodup_map r.distinct (List.mem_of_find?_eq_some hfound) h hid]

/-! ## Registering -/

theorem register_of_mem (h : key ∈ r.keys) :
    r.register key value = (r, some (.duplicate r.name (Identifier.text key))) :=
  dif_pos h

theorem register_of_notMem (h : key ∉ r.keys) :
    r.register key value = (r.push key value h, none) :=
  dif_neg h

theorem keys_of_register (h : r.register key value = (r', none)) :
    r'.keys = r.keys ++ [key] := by
  simp [keys, entries_of_register h]

/-- Whether it is refused or not, a registration adds nothing but its own value. -/
theorem mem_values_register {v : ν} (hmem : v ∈ (r.register key value).1.values) :
    v ∈ r.values ∨ v = value := by
  by_cases h : key ∈ r.keys
  · rw [register_of_mem h] at hmem
    exact .inl hmem
  · rw [register_of_notMem h, values, push, List.map_append, List.mem_append] at hmem
    exact hmem.imp_right List.mem_singleton.mp

/-! ## Looking up -/

theorem mem_values_of_get (h : r.get key = .ok value) : value ∈ r.values := by
  unfold get at h
  split at h
  · rename_i w hfind
    cases h
    obtain ⟨entry, hentry, rfl⟩ := Option.map_eq_some_iff.mp hfind
    exact List.mem_map.mpr ⟨entry, List.mem_of_find?_eq_some hentry, rfl⟩
  · cases h

theorem get_eq_ok (h : r.find? key = some value) : r.get key = .ok value := by
  rw [get, h]

theorem get_eq_error (h : key ∉ r.keys) :
    r.get key = .error (.unknown r.name (Identifier.text key) (r.ids.map Identifier.text)) := by
  rw [get, find?_eq_none_iff.mpr h]

/-- Of some things that are looked up in order, the fault is about the first whose identifier is
not registered. -/
inductive FirstMissing (r : Registry κ ν) (idOf : α → κ) : List α → RegistryFault → Prop
  | here {x : α} {rest : List α} : idOf x ∉ r.keys → FirstMissing r idOf (x :: rest)
      (.unknown r.name (Identifier.text (idOf x)) (r.ids.map Identifier.text))
  | later {x : α} {rest : List α} {fault : RegistryFault} : idOf x ∈ r.keys →
      FirstMissing r idOf rest fault → FirstMissing r idOf (x :: rest) fault

variable {idOf : α → κ} {things : List α}

omit [Identifier κ] in
/-- What is registered under the identifiers of some things, as a function that is as in `other`
elsewhere. -/
theorem exists_valueOf (other : κ → ν) (h : ∀ x ∈ things, idOf x ∈ r.keys) :
    ∃ valueOf : κ → ν, ∀ x ∈ things, r.find? (idOf x) = some (valueOf (idOf x)) := by
  refine ⟨fun key => (r.find? key).getD (other key), fun x hx => ?_⟩
  obtain ⟨value, hvalue⟩ := exists_find?_iff.mpr (h x hx)
  simp [hvalue]

theorem exists_firstMissing_iff :
    (∃ fault, r.FirstMissing idOf things fault) ↔ ∃ x ∈ things, idOf x ∉ r.keys := by
  constructor
  · rintro ⟨fault, h⟩
    induction h with
    | here hx => exact ⟨_, List.mem_cons_self, hx⟩
    | later _ _ ih =>
      obtain ⟨x, hmem, hx⟩ := ih
      exact ⟨x, List.mem_cons_of_mem _ hmem, hx⟩
  · rintro ⟨x, hmem, hx⟩
    induction things with
    | nil => cases hmem
    | cons y rest ih =>
      by_cases hy : idOf y ∈ r.keys
      · have hrest : x ∈ rest := by
          refine (List.mem_cons.mp hmem).resolve_left ?_
          rintro rfl
          exact hx hy
        obtain ⟨fault, hfault⟩ := ih hrest
        exact ⟨fault, .later hy hfault⟩
      · exact ⟨_, .here hy⟩

/-- What a table refuses first is the first thing that is missing. -/
theorem firstRefused_get_iff {keys : List κ} :
    FirstRefused r.get keys fault ↔ r.FirstMissing id keys fault := by
  induction keys with
  | nil =>
    constructor <;> intro h <;> cases h
  | cons key rest ih =>
    by_cases hkey : key ∈ r.keys
    · obtain ⟨value, hvalue⟩ := exists_find?_iff.mpr hkey
      have hget := get_eq_ok hvalue
      constructor
      · rintro (hrefused | ⟨-, hrest⟩)
        · rw [hget] at hrefused
          cases hrefused
        · exact .later hkey (ih.mp hrest)
      · rintro (hmissing | ⟨-, hrest⟩)
        · exact absurd hkey hmissing
        · exact .later hget (ih.mpr hrest)
    · have hget := get_eq_error hkey
      constructor
      · rintro (hrefused | ⟨hfound, -⟩)
        · rw [hget] at hrefused
          cases hrefused
          exact .here hkey
        · rw [hget] at hfound
          cases hfound
      · rintro (- | ⟨hin, -⟩)
        · exact .here hget
        · exact absurd hin hkey

variable (use : α → ν → β)

/-- Where every identifier is registered, everything is found. -/
theorem mapM_get_eq_ok {valueOf : κ → ν}
    (h : ∀ x ∈ things, r.find? (idOf x) = some (valueOf (idOf x))) :
    (things.mapM fun x => do let value ← r.get (idOf x); return use x value) =
      .ok (things.map fun x => use x (valueOf (idOf x))) := by
  induction things with
  | nil => rfl
  | cons x rest ih =>
    obtain ⟨hx, hrest⟩ := List.forall_mem_cons.mp h
    rw [List.mapM_cons, get_eq_ok hx, ih hrest]
    rfl

/-- **Look-ups in order are refused by the first identifier that is not registered.** -/
theorem mapM_get_eq_error_iff :
    (things.mapM fun x => do let value ← r.get (idOf x); return use x value) = .error fault ↔
      r.FirstMissing idOf things fault := by
  induction things with
  | nil => exact ⟨nofun, nofun⟩
  | cons x rest ih =>
    rw [List.mapM_cons]
    by_cases hx : idOf x ∈ r.keys
    · obtain ⟨value, hvalue⟩ := exists_find?_iff.mpr hx
      rw [get_eq_ok hvalue]
      change (rest.mapM _ >>= fun bs => pure (use x value :: bs)) = Except.error fault ↔ _
      rw [bind_eq_error]
      constructor
      · rintro (hrest | ⟨bs, -, hbs⟩)
        · exact .later hx (ih.mp hrest)
        · cases hbs
      · rintro (hmissing | ⟨-, hrest⟩)
        · exact absurd hx hmissing
        · exact .inl (ih.mpr hrest)
    · rw [get_eq_error hx]
      constructor
      · intro h
        cases h
        exact .here hx
      · rintro (- | ⟨hin, -⟩)
        · rfl
        · exact absurd hin hx

theorem exists_mapM_get_eq_ok_iff :
    (∃ bs, (things.mapM fun x => do let value ← r.get (idOf x); return use x value) = .ok bs) ↔
      ∀ x ∈ things, idOf x ∈ r.keys := by
  have hsplit : ∀ found : Except RegistryFault (List β),
      (∃ bs, found = .ok bs) ↔ ¬ ∃ fault, found = .error fault := by
    intro found
    cases found <;> simp
  rw [hsplit]
  simp only [mapM_get_eq_error_iff, exists_firstMissing_iff, not_exists, not_and, not_not]

end Registry

end SoloDuel
