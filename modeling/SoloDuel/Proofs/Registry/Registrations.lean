import Mathlib.Data.List.Infix
import SoloDuel.Proofs.Registry.Lookup
/-!
# Series of registrations

A table is filled by a series of registrations, and those that are refused leave it as it is. What
it holds in the end are the calls that were the first with their identifier, in their order.

* `firstsBy` — the elements of a list that are the first of their key.
* `Registration.Atomic` — a refusal leaves what there was, as it does in a table.
* `attemptEach` — what a series of registrations leaves; `Succeeds` says which of them succeed.
* `Registry.entries_filled` — a table holds the first calls of each identifier.
* `Follows` — registering somewhere is registering in a table that is kept there;
  `Follows.entries_attemptEach` carries over what series of registrations leave, and
  `Follows.registerEach_accepted_iff` says when none of a list is refused.
-/

namespace SoloDuel

/-! ## The first of each key -/

section Firsts

variable {α β κ : Type} [DecidableEq κ] {key : α → κ} {xs before after : List α} {a : α} {k : κ}

/-- The elements of a list whose key no earlier element has, in their order. -/
def firstsBy (key : α → κ) : List α → List α
  | [] => []
  | a :: rest => a :: (firstsBy key rest).filter (key · ≠ key a)

theorem nodup_map_firstsBy (key : α → κ) (xs : List α) : ((firstsBy key xs).map key).Nodup := by
  induction xs with
  | nil => exact .nil
  | cons a rest ih =>
    rw [firstsBy, List.map_cons, List.nodup_cons]
    refine ⟨?_, (List.filter_sublist.map key).nodup ih⟩
    simp

/-- No key is lost. -/
theorem mem_map_firstsBy : k ∈ (firstsBy key xs).map key ↔ k ∈ xs.map key := by
  induction xs with
  | nil => rfl
  | cons a rest ih =>
    rw [firstsBy, List.map_cons, List.map_cons, List.mem_cons, List.mem_cons, ← ih]
    by_cases h : k = key a
    · simp [h]
    · simp only [h, false_or, List.mem_map, List.mem_filter, decide_eq_true_iff]
      constructor
      · rintro ⟨b, ⟨hb, -⟩, rfl⟩
        exact ⟨b, hb, rfl⟩
      · rintro ⟨b, hb, rfl⟩
        exact ⟨b, ⟨hb, h⟩, rfl⟩

/-- One element more is among the first ones where its key is new. -/
theorem firstsBy_concat (key : α → κ) (xs : List α) (a : α) :
    firstsBy key (xs ++ [a]) = firstsBy key xs ++ if key a ∈ xs.map key then [] else [a] := by
  induction xs with
  | nil => simp [firstsBy]
  | cons b rest ih =>
    rw [List.cons_append, firstsBy, firstsBy, ih, List.filter_append, List.map_cons]
    by_cases hb : key a = key b
    · by_cases hmem : key a ∈ rest.map key <;> simp [hb]
    · by_cases hmem : key a ∈ rest.map key <;> simp [hmem, hb]

theorem firstsBy_map (key : β → κ) (f : α → β) (xs : List α) :
    firstsBy key (xs.map f) = (firstsBy (fun a => key (f a)) xs).map f := by
  induction xs with
  | nil => rfl
  | cons a rest ih => simp [firstsBy, ih, List.filter_map, Function.comp_def]

/-- Where no two elements share a key, each is the first of its own. -/
theorem firstsBy_eq_self (h : (xs.map key).Nodup) : firstsBy key xs = xs := by
  induction xs with
  | nil => rfl
  | cons a rest ih =>
    obtain ⟨hnew, hrest⟩ := List.nodup_cons.mp h
    rw [firstsBy, ih hrest, List.filter_eq_self.mpr]
    exact fun b hb => decide_eq_true fun heq => hnew (heq ▸ List.mem_map_of_mem hb)

/-- The first elements are those before which their key does not occur. -/
theorem mem_firstsBy_iff :
    a ∈ firstsBy key xs ↔ ∃ before after, xs = before ++ a :: after ∧ key a ∉ before.map key := by
  constructor
  · intro h
    induction xs with
    | nil => cases h
    | cons b rest ih =>
      rcases List.mem_cons.mp h with rfl | h
      · exact ⟨[], rest, rfl, List.not_mem_nil⟩
      · obtain ⟨hrest, hne⟩ := List.mem_filter.mp h
        obtain ⟨before, after, rfl, hnew⟩ := ih hrest
        refine ⟨b :: before, after, rfl, ?_⟩
        rw [List.map_cons, List.mem_cons, not_or]
        exact ⟨of_decide_eq_true hne, hnew⟩
  · rintro ⟨before, after, rfl, hnew⟩
    -- the elements up to `a` have it as a first one, and later ones take nothing away
    induction after using List.reverseRecOn with
    | nil => simp [firstsBy_concat, hnew]
    | append_singleton after b ih =>
      rw [← List.cons_append, ← List.append_assoc, firstsBy_concat]
      exact List.mem_append_left _ ih

end Firsts

/-! ## Attempts -/

section Attempts

variable {ε σ τ α : Type} {registration : α → Registration ε σ} {calls : List α} {s : σ} {a : α}

/-- A registration that is refused leaves what there was. -/
def Registration.Atomic (registration : Registration ε σ) : Prop :=
  ∀ s fault, (registration s).2 = some fault → (registration s).1 = s

/-- Registering in a part, and putting the part back, is atomic if registering in the part is. -/
theorem Registration.Atomic.inPart {registration : Registration ε τ} (h : registration.Atomic)
    (part : σ → τ) (put : σ → τ → σ) (hput : ∀ s, put s (part s) = s) :
    Registration.Atomic fun s => (put s (registration (part s)).1, (registration (part s)).2) := by
  intro s fault hfault
  have hpart : (registration (part s)).1 = part s := h (part s) fault hfault
  change put s (registration (part s)).1 = s
  rw [hpart, hput]

/-- What a series of registrations leaves. One that is refused does not stop those after it. -/
def attemptEach (registration : α → Registration ε σ) (calls : List α) (s : σ) : σ :=
  calls.foldl (fun s call => (registration call s).1) s

/-- A registration is made in a series and succeeds on what those before it have left. -/
def Succeeds (registration : α → Registration ε σ) (calls : List α) (s : σ) (a : α) : Prop :=
  ∃ before after, calls = before ++ a :: after ∧
    (registration a (attemptEach registration before s)).2 = none

theorem attemptEach_concat (registration : α → Registration ε σ) (calls : List α) (a : α) (s : σ) :
    attemptEach registration (calls ++ [a]) s =
      (registration a (attemptEach registration calls s)).1 := by
  rw [attemptEach, List.foldl_concat]
  rfl

end Attempts

/-! ## Filling a table -/

namespace Registry

variable {κ ν : Type} [Identifier κ] [DecidableEq κ] {name : String} {calls : List (κ × ν)}
  {key : κ} {value : ν}

/-- **A refused registration changes nothing.** -/
theorem atomic_register (key : κ) (value : ν) :
    Registration.Atomic fun r : Registry κ ν => r.register key value :=
  fun _ _ hfault => eq_of_register_fault (Prod.ext rfl hfault)

/-- Registers a value under an identifier. -/
def enter (call : κ × ν) : Registration RegistryFault (Registry κ ν) := fun r =>
  r.register call.1 call.2

/-- The table that a series of registrations fills. -/
def filled (name : String) (calls : List (κ × ν)) : Registry κ ν :=
  attemptEach enter calls (empty name)

theorem filled_concat (name : String) (calls : List (κ × ν)) (call : κ × ν) :
    filled name (calls ++ [call]) = ((filled name calls).register call.1 call.2).1 :=
  attemptEach_concat enter calls call _

theorem name_filled (name : String) (calls : List (κ × ν)) : (filled name calls).name = name := by
  induction calls using List.reverseRecOn with
  | nil => rfl
  | append_singleton calls call ih =>
    rw [filled_concat]
    by_cases h : call.1 ∈ (filled name calls).keys
    · rw [register_of_mem h, ih]
    · rw [register_of_notMem h]
      exact ih

/-- **A table holds the first call of each identifier**, in the order of the calls. -/
theorem entries_filled (name : String) (calls : List (κ × ν)) :
    (filled name calls).entries = firstsBy Prod.fst calls := by
  induction calls using List.reverseRecOn with
  | nil => rfl
  | append_singleton calls call ih =>
    have hkeys : call.1 ∈ (filled name calls).keys ↔ call.1 ∈ calls.map Prod.fst := by
      rw [keys, ih]
      exact mem_map_firstsBy
    rw [filled_concat, firstsBy_concat, ← ih]
    by_cases hmem : call.1 ∈ calls.map Prod.fst
    · rw [register_of_mem (hkeys.mpr hmem), if_pos hmem, List.append_nil]
    · rw [register_of_notMem (mt hkeys.mp hmem), if_neg hmem]
      rfl

theorem mem_keys_filled : key ∈ (filled name calls).keys ↔ key ∈ calls.map Prod.fst := by
  rw [keys, entries_filled]
  exact mem_map_firstsBy

theorem mem_keys_filled_map {α : Type} {entry : α → κ × ν} {calls : List α} :
    key ∈ (filled name (calls.map entry)).keys ↔ key ∈ calls.map fun call => (entry call).1 := by
  rw [mem_keys_filled, List.map_map]
  rfl

end Registry

/-! ## Filling what keeps a table -/

section Follows

variable {σ α κ ν : Type} [Identifier κ] [DecidableEq κ]
  {registration : α → Registration RegistryFault σ} {table : σ → Registry κ ν}
  {entry : α → κ × ν} {calls : List α} {s : σ} {a : α}

/-- Registering is registering in a table that is kept. -/
structure Follows (registration : α → Registration RegistryFault σ) (table : σ → Registry κ ν)
    (entry : α → κ × ν) : Prop where
  /-- The table changes and refuses as it would by itself. -/
  register : ∀ a s, (registration a s).map table id = Registry.enter (entry a) (table s)
  /-- Where the table refuses, nothing that is kept beside it changes either. -/
  atomic : ∀ a, (registration a).Atomic

namespace Follows

variable (h : Follows registration table entry)
include h

theorem table_register (a : α) (s : σ) :
    table (registration a s).1 = ((table s).register (entry a).1 (entry a).2).1 :=
  congrArg Prod.fst (h.register a s)

theorem fault_register (a : α) (s : σ) :
    (registration a s).2 = ((table s).register (entry a).1 (entry a).2).2 :=
  congrArg Prod.snd (h.register a s)

/-- The table is filled by the same series. -/
theorem table_attemptEach (calls : List α) {name : String} (hs : table s = .empty name) :
    table (attemptEach registration calls s) = .filled name (calls.map entry) := by
  induction calls using List.reverseRecOn with
  | nil => exact hs
  | append_singleton calls a ih =>
    rw [attemptEach_concat, h.table_register, ih, List.map_append, List.map_singleton,
      Registry.filled_concat]

variable {name : String} (hs : table s = .empty name)
include hs

/-- One registration more is refused as one more in the table is. -/
theorem fault_concat (a : α) (calls : List α) :
    (registration a (attemptEach registration calls s)).2 =
      ((Registry.filled name (calls.map entry)).register (entry a).1 (entry a).2).2 := by
  rw [h.fault_register, h.table_attemptEach calls hs]

/-- A registration whose identifier is taken is refused and changes nothing. -/
theorem refused (hmem : (entry a).1 ∈ calls.map fun call => (entry call).1) :
    registration a (attemptEach registration calls s) =
      (attemptEach registration calls s,
        some (.duplicate name (Identifier.text (entry a).1))) := by
  have hfault := h.fault_concat hs a calls
  rw [Registry.register_of_mem (Registry.mem_keys_filled_map.mpr hmem),
    Registry.name_filled] at hfault
  exact Prod.ext (h.atomic a _ _ hfault) hfault

/-- The series with it leaves what the series without it does. -/
theorem unchanged (hmem : (entry a).1 ∈ calls.map fun call => (entry call).1) :
    attemptEach registration (calls ++ [a]) s = attemptEach registration calls s := by
  rw [attemptEach_concat, h.refused hs hmem]

/-- Any other is made. -/
theorem accepted (hnew : (entry a).1 ∉ calls.map fun call => (entry call).1) :
    registration a (attemptEach registration calls s) =
      (attemptEach registration (calls ++ [a]) s, none) := by
  have hfault := h.fault_concat hs a calls
  rw [Registry.register_of_notMem (mt Registry.mem_keys_filled_map.mp hnew)] at hfault
  exact Prod.ext (attemptEach_concat registration calls a s).symm hfault

/-- Those that succeed are the first of their identifier. -/
theorem succeeds_iff :
    Succeeds registration calls s a ↔ a ∈ firstsBy (fun call => (entry call).1) calls := by
  rw [mem_firstsBy_iff]
  constructor
  · rintro ⟨before, after, rfl, hregister⟩
    refine ⟨before, after, rfl, fun hmem => ?_⟩
    rw [h.refused hs hmem] at hregister
    cases hregister
  · rintro ⟨before, after, rfl, hnew⟩
    refine ⟨before, after, rfl, ?_⟩
    rw [h.accepted hs hnew]

/-- **The table kept holds the first of each identifier**, in the order of the series. -/
theorem entries_attemptEach (calls : List α) :
    (table (attemptEach registration calls s)).entries =
      (firstsBy (fun call => (entry call).1) calls).map entry := by
  rw [h.table_attemptEach calls hs, Registry.entries_filled, firstsBy_map]

end Follows

/-! ## Up to the first refusal -/

section RegisterEach

variable {ε : Type} {registrations : List (Registration ε σ)} {first : Registration ε σ}

theorem registerEach_of_accepted (h : (first s).2 = none) :
    registerEach (first :: registrations) s = registerEach registrations (first s).1 := by
  rw [registerEach]
  split
  · rename_i t hfirst
    rw [hfirst]
  · rename_i t fault hfirst
    rw [hfirst] at h
    cases h

theorem registerEach_of_refused {fault : ε} (h : (first s).2 = some fault) :
    registerEach (first :: registrations) s = first s := by
  rw [registerEach]
  split
  · rename_i t hfirst
    rw [hfirst] at h
    cases h
  · rename_i t other hfirst
    exact hfirst.symm

end RegisterEach

namespace Follows

variable (h : Follows registration table entry)
include h

theorem registration_of_mem (hmem : (entry a).1 ∈ (table s).keys) :
    ∃ fault, registration a s = (s, some fault) := by
  have hfault := h.fault_register a s
  rw [Registry.register_of_mem hmem] at hfault
  exact ⟨_, Prod.ext (h.atomic a s _ hfault) hfault⟩

theorem registration_of_notMem (hnew : (entry a).1 ∉ (table s).keys) :
    (registration a s).2 = none ∧
      (table (registration a s).1).entries = (table s).entries ++ [entry a] := by
  rw [h.fault_register, h.table_register, Registry.register_of_notMem hnew]
  exact ⟨rfl, rfl⟩

/-- All of a list is registered where no two of its identifiers are the same, and none is taken. -/
theorem registerEach_accepted_iff (calls : List α) (s : σ) :
    (registerEach (calls.map registration) s).2 = none ↔
      ((table s).keys ++ calls.map fun call => (entry call).1).Nodup := by
  -- each registration moves an identifier from the list to the table
  induction calls generalizing s with
  | nil =>
    rw [List.map_nil, List.map_nil, List.append_nil]
    exact iff_of_true rfl (table s).distinct
  | cons a rest ih =>
    rw [List.map_cons, List.map_cons]
    by_cases hmem : (entry a).1 ∈ (table s).keys
    · obtain ⟨fault, hrefused⟩ := h.registration_of_mem hmem
      rw [registerEach_of_refused (congrArg Prod.snd hrefused), hrefused]
      refine iff_of_false nofun fun hnodup => ?_
      exact (List.nodup_append.mp hnodup).2.2 _ hmem _ List.mem_cons_self rfl
    · obtain ⟨haccepted, hentries⟩ := h.registration_of_notMem hmem
      rw [registerEach_of_accepted haccepted, ih, Registry.keys, hentries, List.map_append,
        List.append_assoc]
      rfl

/-- Then the table holds it behind what it held. -/
theorem entries_registerEach {calls : List α} {s : σ}
    (haccepted : (registerEach (calls.map registration) s).2 = none) :
    (table (registerEach (calls.map registration) s).1).entries =
      (table s).entries ++ calls.map entry := by
  induction calls generalizing s with
  | nil => exact (List.append_nil _).symm
  | cons a rest ih =>
    rw [List.map_cons] at haccepted ⊢
    by_cases hmem : (entry a).1 ∈ (table s).keys
    · obtain ⟨fault, hrefused⟩ := h.registration_of_mem hmem
      rw [registerEach_of_refused (congrArg Prod.snd hrefused), hrefused] at haccepted
      cases haccepted
    · obtain ⟨hfirst, hentries⟩ := h.registration_of_notMem hmem
      rw [registerEach_of_accepted hfirst] at haccepted ⊢
      rw [ih haccepted, hentries, List.map_cons, List.append_assoc, List.singleton_append]

/-- Whatever is refused, nothing that the table held is lost. -/
theorem entries_prefix_registerEach (calls : List α) (s : σ) :
    (table s).entries <+: (table (registerEach (calls.map registration) s).1).entries := by
  induction calls generalizing s with
  | nil => exact List.prefix_rfl
  | cons a rest ih =>
    rw [List.map_cons]
    by_cases hmem : (entry a).1 ∈ (table s).keys
    · obtain ⟨fault, hrefused⟩ := h.registration_of_mem hmem
      rw [registerEach_of_refused (congrArg Prod.snd hrefused), hrefused]
    · obtain ⟨hfirst, hentries⟩ := h.registration_of_notMem hmem
      rw [registerEach_of_accepted hfirst]
      exact (hentries ▸ List.prefix_append _ _).trans (ih _)

end Follows

/-- Things that are registered under identifiers of their own are kept in the order of the series,
the first of each identifier. -/
theorem Follows.values_attemptEach {registration : ν → Registration RegistryFault σ} {key : ν → κ}
    {name : String} (h : Follows registration table fun value => (key value, value))
    (hs : table s = .empty name) (calls : List ν) :
    (table (attemptEach registration calls s)).values = firstsBy key calls := by
  rw [Registry.values, h.entries_attemptEach hs, List.map_map]
  exact List.map_id _

end Follows

end SoloDuel
