import SoloDuel.Proofs.Board.Moves
/-!
# Changing field state and shuffling

Changing the field state of a copy and putting a zone in another order leave every copy in its zone.

* `Board.mapFields` — a board with field states changed; `modify_eq`, `modifyOnField_eq` say that
  the changes of a snapshot are of this form.
* `shuffleDeck_perm` — a shuffle only changes the order of the deck; `shuffle_map` says that it
  moves cards by their places alone.
* `Sound.mapFields`, `roster_mapFields`, `Sound.of_perm`, `roster_perm` — what both keep.
-/

namespace SoloDuel

namespace CardInstance

@[simp] theorem isOnField_mapField (f : FieldState → FieldState) (c : CardInstance) :
    (c.mapField f).isOnField = c.isOnField := by
  simp [isOnField, mapField]

theorem isFaceUp_mapField {f : FieldState → FieldState} (h : ∀ state, (f state).face = state.face)
    (c : CardInstance) : (c.mapField f).isFaceUp = c.isFaceUp := by
  cases hfield : c.field <;> simp [isFaceUp, mapField, hfield, FieldState.isFaceUp, h]

theorem mapField_of_not_isOnField {c : CardInstance} (f : FieldState → FieldState)
    (h : c.isOnField = false) : c.mapField f = c := by
  cases c
  simp_all [isOnField, mapField]

end CardInstance

namespace Board

variable {b : Board} {id : InstanceId} {card : CardInstance} {name : ZoneName}

/-! ## Field state -/

/-- The board with the field state of every copy changed, in a way that may depend on the copy. -/
def mapFields (b : Board) (f : InstanceId → FieldState → FieldState) : Board where
  deck := b.deck.map fun c => c.mapField (f c.id)
  hand := b.hand.map fun c => c.mapField (f c.id)
  monsterZone := b.monsterZone.map fun c => c.mapField (f c.id)
  spellTrapZone := b.spellTrapZone.map fun c => c.mapField (f c.id)
  fieldZone := b.fieldZone.map fun c => c.mapField (f c.id)
  graveyard := b.graveyard.map fun c => c.mapField (f c.id)
  banished := b.banished.map fun c => c.mapField (f c.id)

variable {f : InstanceId → FieldState → FieldState}

@[simp] theorem zone_mapFields (b : Board) (f : InstanceId → FieldState → FieldState)
    (name : ZoneName) :
    (b.mapFields f).zone name = (b.zone name).map fun c => c.mapField (f c.id) := by
  cases name <;> rfl

theorem cards_mapFields (b : Board) (f : InstanceId → FieldState → FieldState) :
    (b.mapFields f).cards = b.cards.map fun p => (p.1, p.2.mapField (f p.2.id)) := by
  simp only [cards, zone_mapFields, List.map_flatMap, List.map_map]
  rfl

@[simp] theorem roster_mapFields (b : Board) (f : InstanceId → FieldState → FieldState) :
    (b.mapFields f).roster = b.roster := by
  rw [roster, cards_mapFields, List.map_map]
  rfl

@[simp] theorem ids_mapFields (b : Board) (f : InstanceId → FieldState → FieldState) :
    (b.mapFields f).ids = b.ids := by
  rw [← map_fst_roster, roster_mapFields, map_fst_roster]

theorem find?_mapFields (b : Board) (f : InstanceId → FieldState → FieldState) (id : InstanceId) :
    (b.mapFields f).find? id = (b.find? id).map (·.mapField (f id)) := by
  have hfind : (b.mapFields f).cards.find? (fun p => p.2.id = id) =
      (b.cards.find? fun p => p.2.id = id).map fun p => (p.1, p.2.mapField (f p.2.id)) := by
    rw [cards_mapFields, List.find?_map]
    rfl
  rw [find?_eq, find?_eq, hfind]
  cases h : b.cards.find? fun p => p.2.id = id with
  | none => rfl
  | some p =>
    have hid : p.2.id = id := by simpa using List.find?_some h
    simp only [Option.map_some, hid]

theorem Sound.mapFields (h : b.Sound) (f : InstanceId → FieldState → FieldState) :
    (b.mapFields f).Sound where
  distinct := by
    rw [ids_mapFields]
    exact h.distinct
  placed := by
    intro name c hc
    rw [zone_mapFields, List.mem_map] at hc
    obtain ⟨c, hc, rfl⟩ := hc
    exact h.placed name c hc
  fielded := by
    intro name c hc
    rw [zone_mapFields, List.mem_map] at hc
    obtain ⟨c, hc, rfl⟩ := hc
    rw [CardInstance.isOnField_mapField]
    exact h.fielded name c hc

/-- Off the field there is no field state to change. -/
theorem zone_mapFields_of_not_isOnField (h : b.Sound) (hname : name.isOnField = false)
    (f : InstanceId → FieldState → FieldState) : (b.mapFields f).zone name = b.zone name := by
  rw [zone_mapFields]
  refine (List.map_congr_left fun c hc => ?_).trans (List.map_id _)
  exact CardInstance.mapField_of_not_isOnField _ ((h.fielded name c hc).trans hname)

theorem mapFields_mapFields (b : Board) (f g : InstanceId → FieldState → FieldState) :
    (b.mapFields f).mapFields g = b.mapFields fun id state => g id (f id state) := by
  refine ext_zone fun name => ?_
  simp [CardInstance.mapField, Function.comp_def]

/-! ### The changes of a snapshot -/

theorem modify_eq_map {cards : List CardInstance} {place : Nat} (f : CardInstance → CardInstance)
    (h : (cards.map (·.id)).Nodup) (hplace : cards[place]? = some card) :
    cards.modify place f = cards.map fun c => if c.id = card.id then f c else c := by
  induction cards generalizing place with
  | nil => simp at hplace
  | cons c rest ih =>
    rw [List.map_cons, List.nodup_cons] at h
    cases place with
    | zero =>
      obtain rfl : c = card := by simpa using hplace
      have hrest : (rest.map fun x => if x.id = c.id then f x else x) = rest := by
        refine (List.map_congr_left fun x hx => if_neg fun hid => ?_).trans (List.map_id rest)
        exact h.1 (List.mem_map.mpr ⟨x, hx, hid⟩)
      rw [List.modify_zero_cons, List.map_cons, if_pos rfl, hrest]
    | succ place =>
      rw [List.getElem?_cons_succ] at hplace
      have hne : c.id ≠ card.id := fun hid =>
        h.1 (List.mem_map.mpr ⟨card, List.mem_of_getElem? hplace, hid.symm⟩)
      rw [List.modify_succ_cons, List.map_cons, if_neg hne, ih h.2 hplace]

/-- The change of one copy only. -/
def only (id : InstanceId) (g : FieldState → FieldState) : InstanceId → FieldState → FieldState :=
  fun other state => if other = id then g state else state

theorem mapField_only (id : InstanceId) (g : FieldState → FieldState) (c : CardInstance) :
    c.mapField (only id g c.id) = if c.id = id then c.mapField g else c := by
  split_ifs with h
  · have hchange : only id g c.id = g := funext fun _ => if_pos h
    rw [hchange]
  · have hkeep : only id g c.id = fun state => state := funext fun _ => if_neg h
    rw [hkeep]
    simp [CardInstance.mapField]

theorem find?_mapFields_only (b : Board) (id : InstanceId) (g : FieldState → FieldState)
    (other : InstanceId) :
    (b.mapFields (only id g)).find? other =
      if other = id then (b.find? other).map (·.mapField g) else b.find? other := by
  rw [find?_mapFields]
  cases hfind : b.find? other with
  | none => simp
  | some c =>
    obtain ⟨rfl, -⟩ := mem_zone_of_find? hfind
    rw [Option.map_some, mapField_only, Option.map_some]
    split <;> rfl

/-- Where the copy is not, its change changes nothing. -/
theorem map_mapField_only {cards : List CardInstance} (h : ∀ c ∈ cards, c.id ≠ id)
    (g : FieldState → FieldState) :
    cards.map (fun c => c.mapField (only id g c.id)) = cards := by
  refine (List.map_congr_left fun c hc => ?_).trans (List.map_id cards)
  rw [mapField_only, if_neg (h c hc)]
  rfl

/-- **Changing a copy in place changes it wherever it is.** -/
theorem modify_eq (hb : b.ids.Nodup) (id : InstanceId) (g : FieldState → FieldState) :
    b.modify id (·.mapField g) = b.mapFields (only id g) := by
  refine ext_zone fun other => ?_
  rw [zone_mapFields]
  cases hfind : b.find? id with
  | none =>
    rw [modify, locate_eq_none_iff.mpr hfind, map_mapField_only (find?_eq_none_iff.mp hfind other)]
  | some card =>
    obtain ⟨name, place, hlocate, hplace⟩ := exists_locate_of_find? hb hfind
    obtain ⟨rfl, -⟩ := mem_zone_of_find? hfind
    rw [modify, hlocate]
    by_cases hother : other = name
    · rw [hother, zone_setZone_self, modify_eq_map _ (zone_nodup hb name) hplace]
      simp only [mapField_only]
    · have hne : ∀ c ∈ b.zone other, c.id ≠ card.id := fun c hc hid =>
        hother (eq_of_id_eq hb hc (List.mem_of_getElem? hplace) hid).1
      rw [zone_setZone_of_ne b hother, map_mapField_only hne]

/-- On a sound board a change on the field is a change everywhere. -/
theorem modifyOnField_eq (h : b.Sound) (g : FieldState → FieldState) :
    b.modifyOnField (·.mapField g) = b.mapFields fun _ => g := by
  refine ext_zone fun name => ?_
  have hoff : name.isOnField = false → (b.mapFields fun _ => g).zone name = b.zone name :=
    fun hname => zone_mapFields_of_not_isOnField h hname _
  cases name with
  | monsterZone | spellTrapZone | fieldZone => rfl
  | deck | hand | graveyard | banished => exact (hoff rfl).symm

/-! ## Another order -/

theorem cards_perm {a b : Board} (h : ∀ name, (a.zone name).Perm (b.zone name)) :
    a.cards.Perm b.cards :=
  List.Perm.flatMap_left _ fun name _ => (h name).map _

theorem roster_perm {a b : Board} (h : ∀ name, (a.zone name).Perm (b.zone name)) :
    a.roster.Perm b.roster := (cards_perm h).map _

theorem Sound.of_perm {a b : Board} (hb : b.Sound) (h : ∀ name, (a.zone name).Perm (b.zone name)) :
    a.Sound where
  distinct := nodup_ids_of_roster_perm (roster_perm h) hb.distinct
  placed := fun name c hc => hb.placed name c ((h name).mem_iff.mp hc)
  fielded := fun name c hc => hb.fielded name c ((h name).mem_iff.mp hc)

theorem find?_of_perm {a b : Board} (hb : b.ids.Nodup)
    (h : ∀ name, (a.zone name).Perm (b.zone name)) (id : InstanceId) : a.find? id = b.find? id := by
  have ha : a.ids.Nodup := nodup_ids_of_roster_perm (roster_perm h) hb
  refine Option.ext fun card => ?_
  rw [find?_eq_some_iff ha, find?_eq_some_iff hb]
  simp only [(h _).mem_iff]

theorem swapIfInBounds_perm {α : Type} (row : Array α) (i j : Nat) :
    (row.swapIfInBounds i j).Perm row := by
  rw [Array.swapIfInBounds_def]
  split_ifs with hi hj
  · exact Array.swap_perm hi hj
  · exact .refl row
  · exact .refl row

theorem foldl_perm {α β : Type} {f : Array α → β → Array α} (h : ∀ row b, (f row b).Perm row)
    (bs : List β) (row : Array α) : (bs.foldl f row).Perm row := by
  induction bs generalizing row with
  | nil => exact .refl row
  | cons b rest ih => exact (ih (f row b)).trans (h row b)

/-- Swaps of places keep what is in the list. -/
theorem applySwaps_perm {α : Type} (swaps : List (Nat × Nat)) (cards : List α) :
    (applySwaps swaps cards).Perm cards := by
  refine (foldl_perm ?_ swaps cards.toArray).toList
  exact fun row p => swapIfInBounds_perm row p.1 p.2

theorem shuffle_perm {α : Type} (g : Generator) (cards : List α) :
    (g.shuffle cards).1.Perm cards := applySwaps_perm _ cards

/-- **A shuffle only changes the order of the deck.** -/
theorem shuffleDeck_perm (b : Board) (g : Generator) (name : ZoneName) :
    ((b.shuffleDeck g).1.zone name).Perm (b.zone name) := by
  cases name with
  | deck => exact shuffle_perm g b.deck
  | _ => exact .refl _

theorem map_swapIfInBounds {α β : Type} (f : α → β) (row : Array α) (i j : Nat) :
    (row.map f).swapIfInBounds i j = (row.swapIfInBounds i j).map f := by
  simp only [Array.swapIfInBounds_def, Array.size_map]
  split_ifs with hi hj
  · ext k hk hk'
    · simp
    · simp only [Array.getElem_swap, Array.getElem_map]
      split_ifs <;> rfl
  · rfl
  · rfl

/-- Swaps move what is in a list by its places alone. -/
theorem applySwaps_map {α β : Type} (f : α → β) (swaps : List (Nat × Nat)) (cards : List α) :
    applySwaps swaps (cards.map f) = (applySwaps swaps cards).map f := by
  simp only [applySwaps, ← List.map_toArray, ← Array.toList_map]
  exact congrArg Array.toList
    (List.foldl_hom (Array.map f) fun row p => map_swapIfInBounds f row p.1 p.2)

/-- **Which place a card is shuffled to depends on the number of cards alone.** -/
theorem shuffle_map {α β : Type} (f : α → β) (g : Generator) (cards : List α) :
    g.shuffle (cards.map f) = ((g.shuffle cards).1.map f, (g.shuffle cards).2) := by
  simp only [Generator.shuffle, List.length_map, applySwaps_map]

end Board

end SoloDuel
