import SoloDuel.Activation.Template
import SoloDuel.Proofs.Snapshot.Operations
/-!
# Stays on the field

A card that comes to a zone on the field gets a field state of its own, and loses it when it leaves.
Two notes on the field state are about the turn: that the card was placed this turn, and which
effects it has activated. Within a turn an operation leaves both on every card that stays. Only
setting a card notes that it was placed; whatever else comes onto the field comes without a note.

* `Snapshot.stateIn?` — the field state of a copy that lies in a zone.
* `FieldState.Carries` — what is noted on a field state is noted on another.
* `Snapshot.Stays` — a copy that lies in a zone has lain there, with the same notes.
* `Snapshot.Passes` — that, or the copy has come to the zone and nothing is noted on it.
* `Spares.stays`, `passes_of_moveToField`, `placed_of_setCard`, `passes_of_enterPlay` and
  `stays_mark` — what operations and activations do.
* `stateIn?_beginTurn` — what the start of a turn leaves noted.
-/

namespace SoloDuel

/-- The notes about the turn go over from one field state to another: whether the card was placed
this turn, and the effects that were activated. -/
structure FieldState.Carries (f g : FieldState) : Prop where
  placed : g.placedThisTurn = f.placedThisTurn
  activated : f.activated ⊆ g.activated

namespace FieldState

variable {f g h : FieldState}

theorem Carries.refl (f : FieldState) : f.Carries f := ⟨rfl, fun _ hmem => hmem⟩

theorem Carries.trans (h₁ : f.Carries g) (h₂ : g.Carries h) : f.Carries h :=
  ⟨h₂.placed.trans h₁.placed, List.Subset.trans h₁.activated h₂.activated⟩

theorem carries_markActivated (f : FieldState) (effect : EffectId) :
    f.Carries (f.markActivated effect) := by
  unfold markActivated
  split
  · exact .refl f
  · exact ⟨rfl, List.subset_append_left _ _⟩

end FieldState

theorem CardInstance.field_eq_none {card : CardInstance} (h : card.isOnField = false) :
    card.field = none :=
  Option.not_isSome_iff_eq_none.mp (Bool.eq_false_iff.mp h)

namespace Snapshot

variable {s t u : Snapshot} {id other : InstanceId} {zone target origin : ZoneName}
  {placement : Placement} {out : Outcome} {card : CardInstance}

/-! ## The copy in its zone -/

/-- The field state of a copy that lies in a zone on the field. -/
def stateIn? (s : Snapshot) (id : InstanceId) (zone : ZoneName) : Option FieldState :=
  (s.find? id).bind fun card => if card.location = zone then card.field else none

theorem stateIn?_eq_some_iff {f : FieldState} :
    s.stateIn? id zone = some f ↔
      ∃ card, s.find? id = some card ∧ card.location = zone ∧ card.field = some f := by
  simp [stateIn?, Option.bind_eq_some_iff]

theorem stateIn?_eq_of_board (h : t.board = s.board) (id : InstanceId) (zone : ZoneName) :
    t.stateIn? id zone = s.stateIn? id zone := by
  rw [stateIn?, stateIn?, find?, find?, h]

/-- A copy without field state lies in no zone on the field. -/
theorem stateIn?_eq_none (h : s.find? id = some card) (hfield : card.isOnField = false) :
    s.stateIn? id zone = none := by
  rw [stateIn?, h, Option.bind_some, CardInstance.field_eq_none hfield, ite_self]

/-- Off the field a copy has no field state. -/
theorem stateIn?_eq_none_of_location (hs : s.board.Sound) (h : s.find? id = some card)
    (hlocation : card.location.isOnField = false) : s.stateIn? id zone = none := by
  obtain ⟨-, name, hmem⟩ := Board.mem_zone_of_find? h
  rw [hs.placed name card hmem] at hlocation
  exact stateIn?_eq_none h ((hs.fielded name card hmem).trans hlocation)

/-! ## Within a turn -/

/-- The turn is the same, and if the copy lies in the zone, it lay there before with the same
notes. -/
def Stays (id : InstanceId) (zone : ZoneName) (s t : Snapshot) : Prop :=
  s.board.Sound → t.board.Sound ∧ t.turn = s.turn ∧
    ∀ g, t.stateIn? id zone = some g → ∃ f, s.stateIn? id zone = some f ∧ f.Carries g

/-- The turn is the same, and if the copy lies in the zone, it lay there before with the same notes,
or it did not lie there and nothing notes that it was placed this turn. -/
def Passes (id : InstanceId) (zone : ZoneName) (s t : Snapshot) : Prop :=
  s.board.Sound → t.board.Sound ∧ t.turn = s.turn ∧
    ∀ g, t.stateIn? id zone = some g →
      (∃ f, s.stateIn? id zone = some f ∧ f.Carries g) ∨
        s.stateIn? id zone = none ∧ g.placedThisTurn = false

theorem Stays.refl (id : InstanceId) (zone : ZoneName) (s : Snapshot) : Stays id zone s s :=
  fun hs => ⟨hs, rfl, fun g hg => ⟨g, hg, .refl g⟩⟩

theorem Stays.trans (h₁ : Stays id zone s t) (h₂ : Stays id zone t u) : Stays id zone s u := by
  intro hs
  obtain ⟨ht, hturn, hstate⟩ := h₁ hs
  obtain ⟨hu, hturn', hstate'⟩ := h₂ ht
  refine ⟨hu, hturn'.trans hturn, fun g hg => ?_⟩
  obtain ⟨f', hf', hcarries'⟩ := hstate' g hg
  obtain ⟨f, hf, hcarries⟩ := hstate f' hf'
  exact ⟨f, hf, hcarries.trans hcarries'⟩

theorem Stays.passes (h : Stays id zone s t) : Passes id zone s t := by
  intro hs
  obtain ⟨ht, hturn, hstate⟩ := h hs
  exact ⟨ht, hturn, fun g hg => .inl (hstate g hg)⟩

/-- What comes to a zone and then stays there has come there. -/
theorem Passes.trans_stays (h₁ : Passes id zone s t) (h₂ : Stays id zone t u) :
    Passes id zone s u := by
  intro hs
  obtain ⟨ht, hturn, hstate⟩ := h₁ hs
  obtain ⟨hu, hturn', hstate'⟩ := h₂ ht
  refine ⟨hu, hturn'.trans hturn, fun g hg => ?_⟩
  obtain ⟨f', hf', hcarries'⟩ := hstate' g hg
  rcases hstate f' hf' with ⟨f, hf, hcarries⟩ | ⟨hnone, hplaced⟩
  · exact .inl ⟨f, hf, hcarries.trans hcarries'⟩
  · exact .inr ⟨hnone, hcarries'.placed.trans hplaced⟩

theorem stays_of_board (hboard : t.board = s.board) (hturn : t.turn = s.turn) :
    Stays id zone s t := by
  intro hs
  rw [hboard]
  exact ⟨hs, hturn, fun g hg => ⟨g, stateIn?_eq_of_board hboard id zone ▸ hg, .refl g⟩⟩

theorem stateIn?_of_mapFields {f : InstanceId → FieldState → FieldState}
    (hboard : t.board = s.board.mapFields f) (id : InstanceId) (zone : ZoneName) :
    t.stateIn? id zone = (s.stateIn? id zone).map (f id) := by
  rw [stateIn?, stateIn?, find?, find?, hboard, Board.find?_mapFields]
  cases s.board.find? id with
  | none => rfl
  | some card =>
    by_cases hlocation : card.location = zone <;> simp [CardInstance.mapField, hlocation]

theorem stateIn?_modifyField (hs : s.board.Sound) (other : InstanceId)
    (g : FieldState → FieldState) (id : InstanceId) (zone : ZoneName) :
    (s.modifyField other g).stateIn? id zone = (s.stateIn? id zone).map (Board.only other g id) :=
  stateIn?_of_mapFields (Board.modify_eq hs.distinct other g) id zone

/-- A change of field states that leaves the notes leaves the copy in its stay. -/
theorem stays_of_mapFields {f : InstanceId → FieldState → FieldState}
    (hf : ∀ state : FieldState, state.Carries (f id state))
    (hboard : s.board.Sound → t.board = s.board.mapFields f) (hturn : t.turn = s.turn) :
    Stays id zone s t := by
  intro hs
  refine ⟨hboard hs ▸ hs.mapFields f, hturn, fun g hg => ?_⟩
  rw [stateIn?_of_mapFields (hboard hs)] at hg
  obtain ⟨state, hstate, rfl⟩ := Option.map_eq_some_iff.mp hg
  exact ⟨state, hstate, hf state⟩

theorem stays_modifyField (s : Snapshot) (other : InstanceId) {g : FieldState → FieldState}
    (hg : ∀ state : FieldState, state.Carries (g state)) :
    Stays id zone s (s.modifyField other g) := by
  refine stays_of_mapFields (f := Board.only other g) (fun state => ?_)
    (fun hs => Board.modify_eq hs.distinct other g) rfl
  unfold Board.only
  split
  · exact hg state
  · exact .refl state

/-! ## Moves -/

/-- **After a move** the copy lies where it was put, with fresh field state on the field. The others
lie as before. -/
theorem stateIn?_of_relocate (hs : s.board.Sound)
    (h : s.relocate other target placement = .ok (origin, t)) :
    t.board.Sound ∧ t.turn = s.turn ∧ ∀ id zone, t.stateIn? id zone =
      if id = other then
        if target = zone ∧ target.isOnField then some placement.fresh else none
      else s.stateIn? id zone := by
  obtain ⟨card, hfind, -, -, rfl⟩ := (relocate_eq_ok_iff hs.distinct).mp h
  obtain ⟨rfl, name, hcard⟩ := Board.mem_zone_of_find? hfind
  refine ⟨hs.relocated hcard target placement, rfl, fun id zone => ?_⟩
  rw [stateIn?, find?, Board.find?_relocated hs.distinct hcard]
  split_ifs with hid htarget
  · obtain ⟨rfl, hfield⟩ := htarget
    simp [CardInstance.movedTo, hfield]
  · simp only [Option.bind_some, CardInstance.movedTo]
    split_ifs with hzone hfield
    · exact absurd ⟨hzone, hfield⟩ htarget
    · rfl
    · rfl
  · rfl

/-- A move leaves a copy in its stay, unless it puts that copy into the zone. -/
theorem stays_of_relocate (h : s.relocate other target placement = .ok (origin, t))
    (hmove : other = id → target = zone → target.isOnField = false) : Stays id zone s t := by
  intro hs
  obtain ⟨ht, hturn, hstate⟩ := stateIn?_of_relocate hs h
  refine ⟨ht, hturn, fun g hg => ?_⟩
  rw [hstate] at hg
  split_ifs at hg with hid htarget
  · rw [hmove hid.symm htarget.1] at htarget
    exact absurd htarget.2 Bool.false_ne_true
  · exact ⟨g, hg, .refl g⟩

/-- A move to a zone that the copy did not lie in begins a stay there. -/
theorem passes_of_relocate (h : s.relocate other target placement = .ok (origin, t))
    (haway : s.board.Sound → other = id → target = zone → s.stateIn? id zone = none) :
    Passes id zone s t := by
  intro hs
  obtain ⟨ht, hturn, hstate⟩ := stateIn?_of_relocate hs h
  refine ⟨ht, hturn, fun g hg => ?_⟩
  rw [hstate] at hg
  split_ifs at hg with hid htarget
  · obtain rfl := Option.some.inj hg
    exact .inr ⟨haway hs hid.symm htarget.1, rfl⟩
  · exact .inl ⟨g, hg, .refl g⟩

/-- **What brings nothing onto the field leaves every stay as it is, or ends it.** -/
theorem Sparing.stays {touched : InstanceId → Prop} (h : Sparing touched s t) :
    Stays id zone s t := by
  cases h with
  | withdrawn hmove htarget => exact stays_of_relocate hmove fun _ _ => htarget
  | counted kind count => exact stays_modifyField s _ fun _ => ⟨rfl, fun _ hmem => hmem⟩
  | shuffled =>
    intro hs
    have hperm := s.board.shuffleDeck_perm (Generator.ofState s.rng)
    have hfind : s.shuffle.find? id = s.find? id := Board.find?_of_perm hs.distinct hperm id
    refine ⟨hs.of_perm hperm, rfl, fun g hg => ⟨g, ?_, .refl g⟩⟩
    rwa [stateIn?, hfind] at hg
  | life => exact stays_of_board rfl rfl

theorem Spares.stays {touched : InstanceId → Prop} (h : Spares touched s t) :
    Stays id zone s t := by
  induction h with
  | refl => exact .refl id zone s
  | tail _ hstep ih => exact ih.trans hstep.stays

theorem exists_relocate_of_moveToField (h : s.moveToField other target placement = .ok out) :
    ∃ origin, s.relocate other target placement = .ok (origin, out.state) := by
  rw [moveToField] at h
  split at h
  · obtain ⟨⟨origin, next⟩, hrelocate, hout⟩ := bind_eq_ok.mp h
    cases hout
    exact ⟨origin, hrelocate⟩
  · cases h

theorem stays_of_moveToField (h : s.moveToField other target placement = .ok out)
    (hmove : other ≠ id ∨ target ≠ zone) : Stays id zone s out.state := by
  obtain ⟨origin, hrelocate⟩ := exists_relocate_of_moveToField h
  exact stays_of_relocate hrelocate fun hid htarget =>
    hmove.elim (absurd hid) (absurd htarget)

theorem passes_of_moveToField (h : s.moveToField other target placement = .ok out)
    (haway : s.board.Sound → other = id → target = zone → s.stateIn? id zone = none) :
    Passes id zone s out.state := by
  obtain ⟨origin, hrelocate⟩ := exists_relocate_of_moveToField h
  exact passes_of_relocate hrelocate haway

/-- **Setting a card notes that it was placed this turn**, and leaves the other cards as they
are. -/
theorem placed_of_setCard (hs : s.board.Sound) (h : s.setCard other target placement = .ok out) :
    out.state.board.Sound ∧ out.state.turn = s.turn ∧ ∀ id zone g,
      out.state.stateIn? id zone = some g →
        if id = other then g.placedThisTurn = true else s.stateIn? id zone = some g := by
  obtain ⟨moved, hmove, hout⟩ := bind_eq_ok.mp h
  cases hout
  obtain ⟨origin, hrelocate⟩ := exists_relocate_of_moveToField hmove
  obtain ⟨hsound, hturn, hstate⟩ := stateIn?_of_relocate hs hrelocate
  refine ⟨sound_modifyField hsound other _, hturn, fun id zone g hg => ?_⟩
  rw [stateIn?_modifyField hsound] at hg
  obtain ⟨f, hf, rfl⟩ := Option.map_eq_some_iff.mp hg
  unfold Board.only
  split_ifs with hid
  · rfl
  · rw [hstate, if_neg hid] at hf
    exact hf

theorem stays_of_flipFaceUp (h : s.flipFaceUp other = .ok out) : Stays id zone s out.state := by
  rw [flipFaceUp] at h
  split at h
  · cases h
  · split at h
    · cases h
      exact stays_modifyField s other fun _ => ⟨rfl, fun _ hmem => hmem⟩
    · cases h

/-! ## Activations -/

/-- **A card that is put into play** comes without a note, or stays as it is where it lies on the
field. -/
theorem passes_of_enterPlay {destination : Option ZoneName} (hfind : s.find? card.id = some card)
    (h : ActivationTemplate.enterPlay destination s card = .ok out) :
    Passes id zone s out.state := by
  unfold ActivationTemplate.enterPlay at h
  split at h
  · rename_i hfield
    refine passes_of_moveToField h fun _ hid _ => ?_
    rw [← hid]
    exact stateIn?_eq_none hfind hfield
  · cases h
    exact (Stays.refl id zone s).passes
  · split at h
    · cases h
      exact (Stays.refl id zone s).passes
    · exact (stays_of_flipFaceUp h).passes

/-- Marking a use forgets nothing. -/
theorem stays_mark (s : Snapshot) (source : InstanceId) (effect : EffectId) (once : OncePerTurn) :
    Stays id zone s (ActivationTemplate.mark s source effect once) := by
  cases once with
  | unlimited => exact stays_modifyField s source fun f => f.carries_markActivated effect
  | card => exact stays_of_board rfl rfl
  | copy =>
    have hmarked :
        Stays id zone s { s with usedEffects := s.usedEffects.insert (source, effect) } :=
      stays_of_board rfl rfl
    exact hmarked.trans (stays_modifyField _ source fun f => f.carries_markActivated effect)

/-! ## From turn to turn -/

/-- **Where a turn begins** every copy stays where it lies, and nothing is noted any more. -/
theorem stateIn?_beginTurn (hs : s.board.Sound) (id : InstanceId) (zone : ZoneName) :
    s.beginTurn.stateIn? id zone = (s.stateIn? id zone).map (·.resetForTurn) :=
  stateIn?_of_mapFields (board_beginTurn hs) id zone

end Snapshot

end SoloDuel
