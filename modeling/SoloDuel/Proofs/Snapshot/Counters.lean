import SoloDuel.Proofs.Activation.Activated
/-!
# The counters on a copy

Counters lie on a copy in piles, one for each kind. What a change of the snapshot makes of the piles
on one copy can be followed without looking at the rest of the board.

* `Counter.held` — the number of counters of a kind in piles; `held_put_self`, `held_put_of_ne` say
  what putting a number there does.
* `Snapshot.piles`, `Snapshot.counter` — the piles on a copy and the counters of a kind.
* `Spares.piles_eq`, `SameOthers.piles_eq` — changes that leave the piles on a copy alone.
* `piles_of_addCounters`, `piles_of_removeCounters`, `piles_of_sendToGraveyard` — those that do not.
-/

namespace SoloDuel

/-! ## Piles -/

namespace Counter

variable {kind other : CounterKind} {count : UInt32} {piles : List Counter}

/-- The number of counters of a kind in piles: what the first pile of the kind has. -/
def held (kind : CounterKind) (piles : List Counter) : UInt32 :=
  match piles.find? (·.kind = kind) with
  | some pile => pile.count
  | none => 0

theorem held_cons (kind : CounterKind) (pile : Counter) (rest : List Counter) :
    held kind (pile :: rest) = if pile.kind = kind then pile.count else held kind rest := by
  by_cases h : pile.kind = kind
  · simp [held, h]
  · simp [held, h]

/-- Without a pile of the kind there are no counters of it. -/
theorem held_eq_zero (h : kind ∉ piles.map (·.kind)) : held kind piles = 0 := by
  induction piles with
  | nil => rfl
  | cons pile rest ih =>
    rw [List.map_cons, List.mem_cons, not_or] at h
    rw [held_cons, if_neg fun heq => h.1 heq.symm]
    exact ih h.2

/-- The number that is put there is the number there. None are there only if no second pile of the
kind comes to light. -/
theorem held_put_self (h : count ≠ 0 ∨ (piles.map (·.kind)).Nodup) :
    held kind (put kind count piles) = count := by
  induction piles with
  | nil =>
    by_cases hcount : count = 0
    · simp [put, hcount, held]
    · simp [put, hcount, held]
  | cons pile rest ih =>
    rw [put]
    by_cases hkind : pile.kind = kind
    · by_cases hcount : count = 0
      · have hnodup := h.resolve_left fun hne => hne hcount
        rw [List.map_cons, List.nodup_cons] at hnodup
        rw [if_pos hkind, if_pos hcount, hcount]
        exact held_eq_zero (hkind ▸ hnodup.1)
      · rw [if_pos hkind, if_neg hcount, held_cons]
        exact if_pos hkind
    · rw [if_neg hkind, held_cons, if_neg hkind]
      refine ih (h.imp_right fun hnodup => ?_)
      rw [List.map_cons, List.nodup_cons] at hnodup
      exact hnodup.2

/-- The counters of the other kinds stay as they are. -/
theorem held_put_of_ne (h : other ≠ kind) :
    held other (put kind count piles) = held other piles := by
  induction piles with
  | nil =>
    by_cases hcount : count = 0
    · simp [put, hcount]
    · simp [put, hcount, held, h.symm]
  | cons pile rest ih =>
    rw [put]
    by_cases hkind : pile.kind = kind
    · have hne : ¬ pile.kind = other := fun heq => h (heq.symm.trans hkind)
      by_cases hcount : count = 0
      · rw [if_pos hkind, if_pos hcount, held_cons, if_neg hne]
      · rw [if_pos hkind, if_neg hcount, held_cons, held_cons, if_neg hne, if_neg hne]
    · rw [if_neg hkind, held_cons, held_cons, ih]

/-! ### Sums and limits -/

theorem toNat_raise (count amount : UInt32) :
    (Snapshot.raise count amount).toNat = min (count.toNat + amount.toNat) (UInt32.size - 1) := by
  have hbound : min (count.toNat + amount.toNat) (UInt32.size - 1) < UInt32.size :=
    Nat.lt_of_le_of_lt (Nat.min_le_right _ _) (by decide)
  exact UInt32.toNat_ofNat_of_lt' hbound

theorem toNat_atMost (most count : UInt32) :
    (Snapshot.atMost (some most) count).toNat = min count.toNat most.toNat := by
  have hmin : Snapshot.atMost (some most) count = if count ≤ most then count else most := rfl
  rw [hmin]
  split
  · rename_i hle
    exact (Nat.min_eq_left hle).symm
  · rename_i hlt
    have hle : most.toNat ≤ count.toNat := Nat.le_of_not_le hlt
    exact (Nat.min_eq_right hle).symm

end Counter

/-- The piles of counters on a copy. Off the field there are none. -/
def CardInstance.piles (c : CardInstance) : List Counter := c.field.elim [] (·.counters)

namespace CardInstance

theorem counter_eq_held (c : CardInstance) (kind : CounterKind) :
    c.counter kind = Counter.held kind c.piles := by
  unfold counter piles
  cases c.field <;> rfl

theorem piles_eq_nil {c : CardInstance} (h : c.isOnField = false) : c.piles = [] := by
  cases hfield : c.field with
  | none => simp [piles, hfield]
  | some state => simp [isOnField, hfield] at h

theorem piles_movedTo {zone : ZoneName} (c : CardInstance) (placement : Placement) :
    (c.movedTo zone placement).piles = [] := by
  by_cases hzone : zone.isOnField
  · simp [movedTo, piles, hzone, Placement.fresh]
  · simp [movedTo, piles, hzone]

theorem piles_mapField {g : FieldState → FieldState}
    (hg : ∀ state, (g state).counters = state.counters) (c : CardInstance) :
    (c.mapField g).piles = c.piles := by
  cases hfield : c.field <;> simp [mapField, piles, hfield, hg]

end CardInstance

namespace Snapshot

variable {s t : Snapshot} {id source : InstanceId} {card : CardInstance} {kind : CounterKind}
  {amount : UInt32} {limit : Option UInt32} {out : Outcome}

/-- The piles of counters on a copy. A copy that is not on the field, or not there, has none. -/
def piles (s : Snapshot) (id : InstanceId) : List Counter := (s.find? id).elim [] (·.piles)

/-- How many counters of a kind a copy has. -/
def counter (s : Snapshot) (id : InstanceId) (kind : CounterKind) : UInt32 :=
  match s.find? id with
  | some card => card.counter kind
  | none => 0

theorem counter_eq_held (s : Snapshot) (id : InstanceId) (kind : CounterKind) :
    s.counter id kind = Counter.held kind (s.piles id) := by
  unfold counter piles
  cases s.find? id with
  | none => rfl
  | some card => exact card.counter_eq_held kind

theorem piles_of_find? (h : s.find? id = some card) : s.piles id = card.piles := by
  simp [piles, h]

theorem piles_congr (h : t.find? id = s.find? id) : t.piles id = s.piles id := by
  rw [piles, piles, h]

/-! ## What leaves the piles alone -/

theorem find?_modifyField_of_ne (hs : s.board.Sound) {other : InstanceId} (h : id ≠ other)
    (g : FieldState → FieldState) : (s.modifyField other g).find? id = s.find? id := by
  rw [find?_modifyField hs.distinct, if_neg h]

/-- A move off the field of a copy that is not on it leaves no counters behind. -/
theorem piles_of_relocate (hs : s.board.Sound) {target origin : ZoneName} {placement : Placement}
    {moved : InstanceId} (hmove : s.relocate moved target placement = .ok (origin, t))
    (hid : id ≠ moved ∨ s.Away moved) : t.piles id = s.piles id := by
  obtain ⟨c, hc, -, -, rfl⟩ := (relocate_eq_ok_iff hs.distinct).mp hmove
  obtain ⟨rfl, hcard⟩ := mem_zone_of_find? hs hc
  change (s.moved c target placement).piles id = s.piles id
  have hfind : (s.moved c target placement).find? id =
      if id = c.id then some (c.movedTo target placement) else s.find? id :=
    Board.find?_relocated hs.distinct hcard target placement id
  by_cases hne : id = c.id
  · subst hne
    have haway : s.Away c.id := hid.resolve_left fun h => h rfl
    have hoff : c.isOnField = false :=
      (hs.fielded c.location c hcard).trans (haway hs c hc)
    rw [if_pos rfl] at hfind
    rw [piles_of_find? hfind, piles_of_find? hc, CardInstance.piles_movedTo,
      CardInstance.piles_eq_nil hoff]
  · rw [if_neg hne] at hfind
    exact piles_congr hfind

/-- **What spares the field leaves the piles alone** on copies that it may not touch. -/
theorem Sparing.piles_eq {touched : InstanceId → Prop} (h : Sparing touched s t)
    (hs : s.board.Sound) (hid : ¬ touched id) : t.piles id = s.piles id := by
  cases h with
  | @withdrawn _ moved _ _ _ hmove _ hmoved =>
    refine piles_of_relocate hs hmove (hmoved.imp_left fun htouched => ?_)
    rintro rfl
    exact hid htouched
  | @counted other kind count htouched =>
    refine piles_congr (find?_modifyField_of_ne hs ?_ _)
    rintro rfl
    exact hid htouched
  | shuffled => exact piles_congr (shuffle_find? hs id)
  | life => rfl

theorem Spares.piles_eq {touched : InstanceId → Prop} (h : Spares touched s t)
    (hs : s.board.Sound) (hid : ¬ touched id) : t.piles id = s.piles id := by
  induction h with
  | refl => rfl
  | tail hbefore hstep ih =>
    have hsound := (Spares.handles hbefore).leads.sound hs
    rw [hstep.piles_eq hsound hid, ih]

/-- A copy other than the source is found as it was. -/
theorem SameOthers.find?_eq (h : SameOthers source s t) (hs : s.board.Sound) (ht : t.board.Sound)
    (hid : id ≠ source) : t.find? id = s.find? id := by
  have hzone : ∀ name (c : CardInstance), c.id = id → (c ∈ t.zone name ↔ c ∈ s.zone name) := by
    intro name c hc
    have hmem : c ∈ (t.zone name).filter (·.id ≠ source) ↔
        c ∈ (s.zone name).filter (·.id ≠ source) := by rw [h name]
    simpa [hc, hid] using hmem
  refine Option.ext fun c => ?_
  rw [find?, find?, Board.find?_eq_some_iff ht.distinct, Board.find?_eq_some_iff hs.distinct]
  exact and_congr_right fun hc => exists_congr fun name => hzone name c hc

theorem SameOthers.piles_eq (h : SameOthers source s t) (hs : s.board.Sound) (ht : t.board.Sound)
    (hid : id ≠ source) : t.piles id = s.piles id :=
  piles_congr (h.find?_eq hs ht hid)

/-- A mark of use leaves all piles alone. -/
theorem piles_mark (hs : s.board.Sound) (source : InstanceId) (effect : EffectId)
    (once : OncePerTurn) (id : InstanceId) :
    (ActivationTemplate.mark s source effect once).piles id = s.piles id := by
  rcases ActivationTemplate.board_mark hs source effect once with h | h
  · refine piles_congr ?_
    rw [find?, h]
    rfl
  · have hfind : (ActivationTemplate.mark s source effect once).find? id =
        (s.find? id).map (·.mapField (Board.only source (·.markActivated effect) id)) := by
      rw [find?, h, Board.find?_mapFields]
      rfl
    have hkept : ∀ state : FieldState,
        (Board.only source (·.markActivated effect) id state).counters = state.counters := by
      intro state
      by_cases hid : id = source
      · by_cases hmarked : state.hasActivated effect
        · simp [Board.only, hid, FieldState.markActivated, hmarked]
        · simp [Board.only, hid, FieldState.markActivated, hmarked]
      · simp [Board.only, hid]
    rw [piles, hfind, piles]
    cases s.find? id with
    | none => rfl
    | some c => exact c.piles_mapField hkept

/-! ## What changes them -/

/-- Setting a number of counters on a card on the field changes its piles. -/
theorem piles_withCounter (hs : s.board.Sound) (hfind : s.find? id = some card)
    (hfield : card.isOnField = true) (kind : CounterKind) (count : UInt32) :
    (s.withCounter id kind count).state.piles id = Counter.put kind count (s.piles id) := by
  obtain ⟨state, hstate⟩ := Option.isSome_iff_exists.mp hfield
  have hafter : (s.withCounter id kind count).state.find? id =
      some (card.mapField (·.setCounter kind count)) := by
    rw [withCounter, find?_modifyField hs.distinct, if_pos rfl, hfind]
    rfl
  rw [piles_of_find? hafter, piles_of_find? hfind]
  simp [CardInstance.piles, CardInstance.mapField, hstate, FieldState.setCounter]

/-- Only a card on the field has counters to count. -/
theorem of_counterOn {held : UInt32} (h : s.counterOn id kind = .ok held) :
    ∃ card, s.find? id = some card ∧ card.isOnField = true ∧
      held = Counter.held kind (s.piles id) := by
  unfold counterOn at h
  cases hfind : s.find? id with
  | none =>
    rw [hfind] at h
    cases h
  | some card =>
    rw [hfind] at h
    cases hfield : card.field with
    | none =>
      simp only [hfield] at h
      cases h
    | some state =>
      simp only [hfield] at h
      cases h
      refine ⟨card, rfl, by simp [CardInstance.isOnField, hfield], ?_⟩
      rw [piles_of_find? hfind]
      simp only [CardInstance.piles, hfield]
      rfl

theorem piles_of_addCounters (hs : s.board.Sound)
    (h : s.addCounters id kind amount limit = .ok out) :
    out.state.piles id = Counter.put kind
      (atMost limit (raise (Counter.held kind (s.piles id)) amount)) (s.piles id) := by
  obtain ⟨held, hheld, hout⟩ := bind_eq_ok.mp h
  obtain ⟨card, hfind, hfield, rfl⟩ := of_counterOn hheld
  cases hout
  exact piles_withCounter hs hfind hfield kind _

theorem piles_of_removeCounters (hs : s.board.Sound)
    (h : s.removeCounters id kind amount = .ok out) :
    amount ≤ Counter.held kind (s.piles id) ∧ out.state.piles id =
      Counter.put kind (Counter.held kind (s.piles id) - amount) (s.piles id) := by
  obtain ⟨held, hheld, hrest⟩ := bind_eq_ok.mp h
  obtain ⟨card, hfind, hfield, rfl⟩ := of_counterOn hheld
  split at hrest
  · cases hrest
  · rename_i henough
    cases hrest
    exact ⟨UInt32.not_lt.mp henough, piles_withCounter hs hfind hfield kind _⟩

/-- A card that goes to the graveyard loses its counters. -/
theorem piles_of_sendToGraveyard (hs : s.board.Sound) (h : s.sendToGraveyard id = .ok out) :
    out.state.piles id = [] := by
  obtain ⟨⟨origin, next⟩, hmove, hout⟩ := bind_eq_ok.mp h
  cases hout
  obtain ⟨card, hfind, -, -, rfl⟩ := (relocate_eq_ok_iff hs.distinct).mp hmove
  change (s.moved card .graveyard .faceUp).piles id = []
  rw [piles_of_find? (find?_moved hs hfind .graveyard .faceUp), CardInstance.piles_movedTo]

end Snapshot

end SoloDuel
