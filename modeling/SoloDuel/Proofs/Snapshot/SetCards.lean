import SoloDuel.Proofs.Snapshot.Operations
/-!
# Cards that lie set

A spell or trap is set by putting it face-down in the spell/trap zone and noting on it, after the
move, that it was placed this turn. The note goes where the turn ends, and with the field state
where the card leaves the zone.

* `Snapshot.LiesSet`, `Snapshot.set?` — the cards that lie set, and what is noted on them.
* `Snapshot.Sets` — within a turn, nothing comes to lie set but certain copies, with the note.
* `Spares.setsNothing`, `setsNothing_of_moveToField`, `sets_of_setCard` — what operations set.
* `set?_of_beginTurn` — what the start of a turn leaves set.
-/

namespace SoloDuel

/-- Of a card that lies face-down, whether it was placed this turn. -/
def FieldState.set? (f : FieldState) : Option Bool :=
  if f.isFaceUp then none else some f.placedThisTurn

theorem FieldState.set?_markActivated (f : FieldState) (effect : EffectId) :
    (f.markActivated effect).set? = f.set? := by
  unfold markActivated
  split <;> rfl

namespace CardInstance

variable {c : CardInstance} {zone : ZoneName} {placement : Placement}

/-- Of a card that lies face-down in the spell/trap zone, whether it was placed this turn. -/
def set? (c : CardInstance) : Option Bool :=
  if c.location = .spellTrapZone then c.field.bind FieldState.set? else none

theorem set?_eq_some_iff {fresh : Bool} :
    c.set? = some fresh ↔ c.location = .spellTrapZone ∧
      ∃ f, c.field = some f ∧ f.isFaceUp = false ∧ f.placedThisTurn = fresh := by
  simp [set?, Option.bind_eq_some_iff, FieldState.set?]

/-- A card that arrives elsewhere, or face-up, does not lie set. -/
theorem set?_movedTo_eq_none (h : zone ≠ .spellTrapZone ∨ placement.face = .up) :
    (c.movedTo zone placement).set? = none := by
  rcases h with hzone | hface
  · exact if_neg hzone
  · simp [set?, movedTo, FieldState.set?, Placement.fresh, FieldState.isFaceUp, hface]

/-- A change of field state sets no card if it sets none that has the state. -/
theorem set?_of_mapField {g : FieldState → FieldState} {fresh : Bool}
    (hg : ∀ f, (g f).set? = some fresh → f.set? = some fresh)
    (h : (c.mapField g).set? = some fresh) : c.set? = some fresh := by
  unfold set? at h ⊢
  split at h
  · rename_i hlocation
    obtain ⟨state, hstate, hset⟩ := Option.bind_eq_some_iff.mp h
    obtain ⟨f, hf, rfl⟩ := Option.map_eq_some_iff.mp hstate
    exact (if_pos hlocation).trans (Option.bind_eq_some_iff.mpr ⟨f, hf, hg f hset⟩)
  · cases h

/-- A change that turns no card over and notes the same on all of them. -/
theorem exists_set?_of_mapField {g : FieldState → FieldState} {noted fresh : Bool}
    (h : (c.mapField g).set? = some fresh) (hface : ∀ f, (g f).isFaceUp = f.isFaceUp)
    (hnoted : ∀ f, (g f).placedThisTurn = noted) :
    fresh = noted ∧ ∃ before, c.set? = some before := by
  obtain ⟨hlocation, state, hstate, hdown, rfl⟩ := set?_eq_some_iff.mp h
  obtain ⟨f, hf, rfl⟩ := Option.map_eq_some_iff.mp hstate
  exact ⟨hnoted f, f.placedThisTurn,
    set?_eq_some_iff.mpr ⟨hlocation, f, hf, (hface f).symm.trans hdown, rfl⟩⟩

end CardInstance

namespace Snapshot

variable {s t u : Snapshot} {id : InstanceId} {fresh : Bool} {placed : InstanceId → Prop}

/-- The copy lies face-down in the spell/trap zone. -/
def LiesSet (s : Snapshot) (id : InstanceId) : Prop :=
  ∃ card, s.find? id = some card ∧ card.location = .spellTrapZone ∧ card.isOnField = true ∧
    card.isFaceUp = false

/-- Of a copy that lies face-down in the spell/trap zone, whether it was placed this turn. -/
def set? (s : Snapshot) (id : InstanceId) : Option Bool := (s.find? id).bind (·.set?)

theorem liesSet_of_set? (h : s.set? id = some fresh) : s.LiesSet id := by
  obtain ⟨card, hfind, hset⟩ := Option.bind_eq_some_iff.mp h
  obtain ⟨hlocation, f, hfield, hface, -⟩ := CardInstance.set?_eq_some_iff.mp hset
  exact ⟨card, hfind, hlocation, by simp [CardInstance.isOnField, hfield],
    by simp [CardInstance.isFaceUp, hfield, hface]⟩

theorem set?_eq_of_board (h : t.board = s.board) (id : InstanceId) : t.set? id = s.set? id := by
  rw [set?, set?, find?, find?, h]

/-! ## Within a turn -/

/-- The turn is the same, and no copy lies set that did not before in the same way, but for certain
ones, on which it is noted that they were placed this turn. -/
def Sets (placed : InstanceId → Prop) (s t : Snapshot) : Prop :=
  s.board.Sound → t.board.Sound ∧ t.turn = s.turn ∧ ∀ id fresh, t.set? id = some fresh →
    (placed id ∧ fresh = true) ∨ s.set? id = some fresh

/-- Nothing comes to lie set. -/
abbrev SetsNothing : Snapshot → Snapshot → Prop := Sets fun _ => False

theorem Sets.refl (placed : InstanceId → Prop) (s : Snapshot) : Sets placed s s :=
  fun hs => ⟨hs, rfl, fun _ _ h => .inr h⟩

theorem Sets.trans (h₁ : Sets placed s t) (h₂ : Sets placed t u) : Sets placed s u := by
  intro hs
  obtain ⟨ht, hturn, hset⟩ := h₁ hs
  obtain ⟨hu, hturn', hset'⟩ := h₂ ht
  exact ⟨hu, hturn'.trans hturn, fun id fresh h =>
    (hset' id fresh h).elim .inl (hset id fresh)⟩

theorem Sets.mono {more : InstanceId → Prop} (h : Sets placed s t)
    (hmore : ∀ id, placed id → more id) : Sets more s t := by
  intro hs
  obtain ⟨ht, hturn, hset⟩ := h hs
  exact ⟨ht, hturn, fun id fresh h => (hset id fresh h).imp_left fun hid =>
    ⟨hmore id hid.1, hid.2⟩⟩

theorem SetsNothing.sets (h : SetsNothing s t) : Sets placed s t := h.mono fun _ h => h.elim

theorem setsNothing_of_board (hboard : t.board = s.board) (hturn : t.turn = s.turn) :
    SetsNothing s t := by
  intro hs
  rw [hboard]
  exact ⟨hs, hturn, fun id fresh h => .inr (set?_eq_of_board hboard id ▸ h)⟩

/-- Changes of field states that turn nothing face-down and note nothing. -/
theorem setsNothing_of_mapFields {f : InstanceId → FieldState → FieldState}
    (hf : ∀ id state fresh, (f id state).set? = some fresh → state.set? = some fresh)
    (hboard : s.board.Sound → t.board = s.board.mapFields f) (hturn : t.turn = s.turn) :
    SetsNothing s t := by
  intro hs
  rw [hboard hs]
  refine ⟨hs.mapFields f, hturn, fun id fresh h => .inr ?_⟩
  rw [set?, find?, hboard hs, Board.find?_mapFields] at h
  obtain ⟨c, hc, hset⟩ := Option.bind_eq_some_iff.mp h
  obtain ⟨card, hfind, rfl⟩ := Option.map_eq_some_iff.mp hc
  exact Option.bind_eq_some_iff.mpr
    ⟨card, hfind, CardInstance.set?_of_mapField (fun state => hf id state fresh) hset⟩

theorem setsNothing_modifyField (s : Snapshot) (id : InstanceId) {g : FieldState → FieldState}
    (hg : ∀ state fresh, (g state).set? = some fresh → state.set? = some fresh) :
    SetsNothing s (s.modifyField id g) := by
  refine setsNothing_of_mapFields (f := Board.only id g) (fun other state fresh h => ?_)
    (fun hs => Board.modify_eq hs.distinct id g) rfl
  unfold Board.only at h
  split at h
  · exact hg state fresh h
  · exact h

/-- A move sets the copy that it puts face-down in the spell/trap zone, and no other. -/
theorem set?_of_relocate (hs : s.board.Sound) {target origin : ZoneName} {placement : Placement}
    (h : s.relocate id target placement = .ok (origin, t)) :
    t.board.Sound ∧ t.turn = s.turn ∧ ∀ other fresh, t.set? other = some fresh →
      (other = id ∧ target = .spellTrapZone ∧ placement.face ≠ .up) ∨
        other ≠ id ∧ s.set? other = some fresh := by
  obtain ⟨card, hfind, -, -, rfl⟩ := (relocate_eq_ok_iff hs.distinct).mp h
  obtain ⟨rfl, name, hcard⟩ := Board.mem_zone_of_find? hfind
  refine ⟨hs.relocated hcard target placement, rfl, fun other fresh hset => ?_⟩
  rw [set?, find?, Board.find?_relocated hs.distinct hcard] at hset
  split at hset
  · rename_i hid
    refine .inl ⟨hid, ?_⟩
    by_contra hnot
    have hnone : (card.movedTo target placement).set? = none :=
      CardInstance.set?_movedTo_eq_none (by rwa [not_and_or, not_not] at hnot)
    rw [Option.bind_some, hnone] at hset
    cases hset
  · rename_i hid
    exact .inr ⟨hid, hset⟩

theorem setsNothing_of_relocate {target origin : ZoneName} {placement : Placement}
    (h : s.relocate id target placement = .ok (origin, t))
    (hmove : target ≠ .spellTrapZone ∨ placement.face = .up) : SetsNothing s t := by
  intro hs
  obtain ⟨ht, hturn, hset⟩ := set?_of_relocate hs h
  refine ⟨ht, hturn, fun other fresh hother => .inr ?_⟩
  rcases hset other fresh hother with ⟨-, htarget, hface⟩ | ⟨-, hbefore⟩
  · rcases hmove with hne | hup
    · exact absurd htarget hne
    · exact absurd hup hface
  · exact hbefore

/-- **What brings nothing onto the field sets nothing.** -/
theorem Sparing.setsNothing {touched : InstanceId → Prop} (h : Sparing touched s t) :
    SetsNothing s t := by
  cases h with
  | withdrawn hmove htarget =>
    refine setsNothing_of_relocate hmove (.inl ?_)
    rintro rfl
    cases htarget
  | counted kind count => exact setsNothing_modifyField s _ fun _ _ h => h
  | shuffled =>
    intro hs
    have hperm := s.board.shuffleDeck_perm (Generator.ofState s.rng)
    refine ⟨hs.of_perm hperm, rfl, fun id fresh h => .inr ?_⟩
    have hfind : s.shuffle.find? id = s.find? id := Board.find?_of_perm hs.distinct hperm id
    rwa [set?, hfind] at h
  | life => exact setsNothing_of_board rfl rfl

theorem Spares.setsNothing {touched : InstanceId → Prop} (h : Spares touched s t) :
    SetsNothing s t := by
  induction h with
  | refl => exact .refl _ s
  | tail _ hstep ih => exact ih.trans hstep.setsNothing

theorem setsNothing_of_moveToField {target : ZoneName} {placement : Placement} {out : Outcome}
    (h : s.moveToField id target placement = .ok out)
    (hmove : target ≠ .spellTrapZone ∨ placement.face = .up) : SetsNothing s out.state := by
  rw [moveToField] at h
  split at h
  · obtain ⟨⟨origin, next⟩, hrelocate, hout⟩ := bind_eq_ok.mp h
    cases hout
    exact setsNothing_of_relocate hrelocate hmove
  · cases h

/-- **Setting a card sets that card only**, in the spell/trap zone only, and notes it. -/
theorem sets_of_setCard {target : ZoneName} {placement : Placement} {out : Outcome}
    (h : s.setCard id target placement = .ok out) :
    Sets (fun other => other = id ∧ target = .spellTrapZone) s out.state := by
  intro hs
  obtain ⟨moved, hmove, hout⟩ := bind_eq_ok.mp h
  cases hout
  rw [moveToField] at hmove
  split at hmove
  · obtain ⟨⟨origin, next⟩, hrelocate, hmoved⟩ := bind_eq_ok.mp hmove
    cases hmoved
    obtain ⟨hnext, hturn, hset⟩ := set?_of_relocate hs hrelocate
    refine ⟨sound_modifyField hnext id _, hturn, fun other fresh hother => ?_⟩
    rw [set?, find?_modifyField hnext.distinct] at hother
    split at hother
    · -- the copy itself, on which it is noted, lies set only if the move set it
      rename_i hid
      obtain ⟨c, hc, hfresh⟩ := Option.bind_eq_some_iff.mp hother
      obtain ⟨card, hfind, rfl⟩ := Option.map_eq_some_iff.mp hc
      obtain ⟨hnoted, before, hbefore⟩ :=
        CardInstance.exists_set?_of_mapField hfresh (fun _ => rfl) (fun _ => rfl)
      rcases hset other before (Option.bind_eq_some_iff.mpr ⟨card, hfind, hbefore⟩) with
        ⟨-, htarget, -⟩ | ⟨hne, -⟩
      · exact .inl ⟨⟨hid, htarget⟩, hnoted⟩
      · exact absurd hid hne
    · rename_i hid
      rcases hset other fresh hother with ⟨heq, -⟩ | ⟨-, hbefore⟩
      · exact absurd heq hid
      · exact .inr hbefore
  · cases hmove

/-! ## From turn to turn -/

/-- **Where a turn begins, what lies set lay set before**, and nothing on it says that it was placed
this turn. -/
theorem set?_of_beginTurn (hs : s.board.Sound) (h : s.beginTurn.set? id = some fresh) :
    fresh = false ∧ ∃ before, s.set? id = some before := by
  rw [set?, find?, board_beginTurn hs, Board.find?_mapFields] at h
  obtain ⟨c, hc, hset⟩ := Option.bind_eq_some_iff.mp h
  obtain ⟨card, hfind, rfl⟩ := Option.map_eq_some_iff.mp hc
  obtain ⟨hfresh, before, hbefore⟩ :=
    CardInstance.exists_set?_of_mapField hset (fun _ => rfl) (fun _ => rfl)
  exact ⟨hfresh, before, Option.bind_eq_some_iff.mpr ⟨card, hfind, hbefore⟩⟩

end Snapshot

end SoloDuel
