import SoloDuel.Proofs.Snapshot.Piles
/-!
# Adding and removing counters

Writing a number of counters makes a pile, changes one in its place or takes it away. On tidy piles
this is all that happens, so that what is added can be removed again without a trace.

* `Counter.Tidy.put` — piles stay tidy; `put_put` — the number that was there, written again, gives
  the same piles in the same order.
* `Snapshot.Recounts` — a copy has another number of counters of a kind, and nothing else has
  changed; `recounts_withCounter` says that this is what writing a number does.
* `Snapshot.Adjusts` — a counter is added up to a limit, or removed; `Adjusts.counter_le`.
* `Snapshot.counter_algebra` — what adding and removing do, one after another and in any number.
-/

namespace SoloDuel

/-! ## Piles -/

namespace Counter

variable {kind other : CounterKind} {count : UInt32} {pile : Counter} {piles : List Counter}

theorem Tidy.cons_iff {rest : List Counter} :
    Tidy (pile :: rest) ↔ (pile.kind ∉ rest.map (·.kind) ∧ 0 < pile.count) ∧ Tidy rest := by
  constructor
  · intro h
    have hdistinct := List.nodup_cons.mp h.distinct
    have hpositive := List.forall_mem_cons.mp h.positive
    exact ⟨⟨hdistinct.1, hpositive.1⟩, hdistinct.2, hpositive.2⟩
  · rintro ⟨⟨hkind, hcount⟩, hrest⟩
    exact ⟨List.nodup_cons.mpr ⟨hkind, hrest.distinct⟩,
      List.forall_mem_cons.mpr ⟨hcount, hrest.positive⟩⟩

/-- Writing a number brings in no kind but its own. -/
theorem mem_kinds_of_put (h : other ∈ (put kind count piles).map (·.kind)) :
    other = kind ∨ other ∈ piles.map (·.kind) := by
  induction piles with
  | nil =>
    by_cases hcount : count = 0
    · simp [put, hcount] at h
    · exact .inl (by simpa [put, hcount] using h)
  | cons pile rest ih =>
    rw [put] at h
    by_cases hkind : pile.kind = kind
    · by_cases hcount : count = 0
      · rw [if_pos hkind, if_pos hcount] at h
        exact .inr (List.mem_cons_of_mem _ h)
      · rw [if_pos hkind, if_neg hcount] at h
        exact .inr h
    · rw [if_neg hkind, List.map_cons, List.mem_cons] at h
      rcases h with rfl | hrest
      · exact .inr List.mem_cons_self
      · exact (ih hrest).imp_right (List.mem_cons_of_mem _)

/-- **Writing a number keeps piles tidy.** -/
theorem Tidy.put (h : Tidy piles) (kind : CounterKind) (count : UInt32) :
    Tidy (put kind count piles) := by
  induction piles with
  | nil =>
    by_cases hcount : count = 0
    · simpa [Counter.put, hcount] using h
    · rw [Counter.put, if_neg hcount, Tidy.cons_iff]
      exact ⟨⟨List.not_mem_nil, UInt32.pos_iff_ne_zero.mpr hcount⟩, h⟩
  | cons pile rest ih =>
    obtain ⟨⟨hfresh, hpositive⟩, hrest⟩ := Tidy.cons_iff.mp h
    rw [Counter.put]
    by_cases hkind : pile.kind = kind
    · by_cases hcount : count = 0
      · rw [if_pos hkind, if_pos hcount]
        exact hrest
      · rw [if_pos hkind, if_neg hcount, Tidy.cons_iff]
        exact ⟨⟨hfresh, UInt32.pos_iff_ne_zero.mpr hcount⟩, hrest⟩
    · rw [if_neg hkind, Tidy.cons_iff]
      refine ⟨⟨fun hmem => ?_, hpositive⟩, ih hrest⟩
      exact (mem_kinds_of_put hmem).elim hkind hfresh

/-- The piles of the other kinds stay as they are, in the same order. -/
theorem filter_put (kind : CounterKind) (count : UInt32) (piles : List Counter) :
    (put kind count piles).filter (·.kind ≠ kind) = piles.filter (·.kind ≠ kind) := by
  induction piles with
  | nil =>
    by_cases hcount : count = 0
    · simp [put, hcount]
    · simp [put, hcount]
  | cons pile rest ih =>
    rw [put]
    by_cases hkind : pile.kind = kind
    · by_cases hcount : count = 0
      · simp [hkind, hcount]
      · simp [hkind, hcount]
    · rw [if_neg hkind, List.filter_cons_of_pos (by simpa using hkind),
        List.filter_cons_of_pos (by simpa using hkind), ih]

/-- Writing the number that is there changes nothing. -/
theorem Tidy.put_held (h : Tidy piles) (kind : CounterKind) :
    Counter.put kind (held kind piles) piles = piles := by
  induction piles with
  | nil => rfl
  | cons pile rest ih =>
    obtain ⟨⟨-, hpositive⟩, hrest⟩ := Tidy.cons_iff.mp h
    rw [held_cons, Counter.put]
    by_cases hkind : pile.kind = kind
    · rw [if_pos hkind, if_pos hkind, if_neg (UInt32.pos_iff_ne_zero.mp hpositive)]
    · rw [if_neg hkind, if_neg hkind, ih hrest]

/-- **The number that was there, written again, gives the piles back**, unless the pile was taken
away in between. -/
theorem Tidy.put_put (h : Tidy piles) (hcount : count ≠ 0 ∨ held kind piles = 0) :
    Counter.put kind (held kind piles) (Counter.put kind count piles) = piles := by
  by_cases hzero : count = 0
  · have hheld := hcount.resolve_left (fun hne => hne hzero)
    have hsame := h.put_held kind
    rw [hheld] at hsame
    rw [hzero, hheld, hsame, hsame]
  · induction piles with
    | nil => simp [Counter.put, hzero, held]
    | cons pile rest ih =>
      obtain ⟨⟨-, hpositive⟩, hrest⟩ := Tidy.cons_iff.mp h
      by_cases hkind : pile.kind = kind
      · have hpile : pile.count ≠ 0 := UInt32.pos_iff_ne_zero.mp hpositive
        rw [held_cons, if_pos hkind, Counter.put, if_pos hkind, if_neg hzero, Counter.put,
          if_pos hkind, if_neg hpile]
      · rw [held_cons, if_neg hkind] at hcount ⊢
        rw [Counter.put, if_neg hkind, Counter.put, if_neg hkind, ih hrest hcount]

end Counter

/-- The number that a copy had, written again, gives the copy back, unless its pile was taken away
in between. -/
theorem CardInstance.setCounter_setCounter {c : CardInstance} {kind : CounterKind} {count : UInt32}
    (h : Counter.Tidy c.piles) (hcount : count ≠ 0 ∨ c.counter kind = 0) :
    (c.mapField (·.setCounter kind count)).mapField (·.setCounter kind (c.counter kind)) = c := by
  rw [counter_eq_held] at hcount ⊢
  obtain ⟨id, data, location, field⟩ := c
  cases field with
  | none => rfl
  | some f =>
    have hput : Counter.put kind (Counter.held kind f.counters)
        (Counter.put kind count f.counters) = f.counters := h.put_put hcount
    simp [mapField, piles, FieldState.setCounter, hput]

theorem CardInstance.tidy_setCounter {c : CardInstance} (h : Counter.Tidy c.piles)
    (kind : CounterKind) (count : UInt32) :
    Counter.Tidy (c.mapField (·.setCounter kind count)).piles := by
  obtain ⟨id, data, location, field⟩ := c
  cases field with
  | none => exact h
  | some f => exact h.put kind count

/-! ## One copy -/

namespace Snapshot

variable {s t : Snapshot} {id : InstanceId} {card : CardInstance} {zone : ZoneName}
  {kind : CounterKind}

/-- The piles on every copy are tidy. -/
def TidyPiles (s : Snapshot) : Prop := ∀ name, ∀ card ∈ s.zone name, Counter.Tidy card.piles

/-- A copy has a number of counters of a kind. Its counters of the other kinds are the same, in the
same order, and nothing else about it has changed; neither has anything else. -/
structure Recounts (s : Snapshot) (id : InstanceId) (kind : CounterKind) (count : Nat)
    (t : Snapshot) : Prop where
  count : (t.counter id kind).toNat = count
  kinds : ∀ other, other ≠ kind → t.counter id other = s.counter id other
  order : (t.piles id).filter (·.kind ≠ kind) = (s.piles id).filter (·.kind ≠ kind)
  zones : ∀ name, t.zone name = (s.zone name).map fun c =>
    if c.id = id then c.mapField fun f => { f with counters := t.piles id } else c
  others : ∀ other, other ≠ id → t.find? other = s.find? other
  tidy : t.TidyPiles
  check : t.check = .ok ()
  rest : t = { s with board := t.board }

/-- The copy with the number has other piles, and every other copy is as it was. -/
theorem zone_withCounter (hs : s.board.Sound) (hfind : s.find? id = some card)
    (hfield : card.isOnField = true) (kind : CounterKind) (count : UInt32) (name : ZoneName) :
    (s.withCounter id kind count).state.zone name = (s.zone name).map fun c =>
      if c.id = id then
        c.mapField fun f => { f with counters := (s.withCounter id kind count).state.piles id }
      else c := by
  obtain ⟨rfl, hcard⟩ := mem_zone_of_find? hs hfind
  rw [piles_withCounter hs hfind hfield, piles_of_find? hfind, withCounter,
    zone_modifyField hs.distinct]
  refine List.map_congr_left fun c hc => ?_
  split
  · -- the copy with the number is the one that was found
    rename_i hid
    obtain ⟨-, rfl⟩ := Board.eq_of_id_eq hs.distinct hc hcard hid
    obtain ⟨f, hf⟩ := Option.isSome_iff_exists.mp hfield
    simp [CardInstance.mapField, CardInstance.piles, hf, FieldState.setCounter]
  · rfl

/-- Writing a number of counters keeps all piles tidy. -/
theorem TidyPiles.withCounter (htidy : s.TidyPiles) (hs : s.board.Sound) (id : InstanceId)
    (kind : CounterKind) (count : UInt32) : (s.withCounter id kind count).state.TidyPiles := by
  intro name c hc
  rw [Snapshot.withCounter, zone_modifyField hs.distinct, List.mem_map] at hc
  obtain ⟨c, hc, rfl⟩ := hc
  split
  · exact CardInstance.tidy_setCounter (htidy name c hc) kind count
  · exact htidy name c hc

/-- **Writing a number of counters on a card on the field changes nothing else.** -/
theorem recounts_withCounter (hs : s.board.Sound) (htidy : s.TidyPiles)
    (hfind : s.find? id = some card) (hfield : card.isOnField = true) (kind : CounterKind)
    (count : UInt32) : s.Recounts id kind count.toNat (s.withCounter id kind count).state := by
  have hpiles := piles_withCounter hs hfind hfield kind count
  have hdistinct : ((s.piles id).map (·.kind)).Nodup := by
    rw [piles_of_find? hfind]
    exact (htidy _ card (mem_zone_of_find? hs hfind).2).distinct
  exact {
    count := by rw [counter_eq_held, hpiles, Counter.held_put_self (.inr hdistinct)]
    kinds := by
      intro other hother
      rw [counter_eq_held, hpiles, Counter.held_put_of_ne hother, ← counter_eq_held]
    order := by rw [hpiles, Counter.filter_put]
    zones := zone_withCounter hs hfind hfield kind count
    others := fun other hother => find?_modifyField_of_ne hs hother _
    tidy := htidy.withCounter hs id kind count
    check := Board.check_eq_ok_iff.mpr (sound_modifyField hs id _)
    rest := rfl }

/-- The number that a copy had, written again, gives the snapshot back, unless a pile was taken away
in between. -/
theorem modifyField_modifyField (hs : s.board.Sound) (htidy : s.TidyPiles)
    (hfind : s.find? id = some card) {count : UInt32}
    (hcount : count ≠ 0 ∨ card.counter kind = 0) :
    (s.modifyField id (·.setCounter kind count)).modifyField id
      (·.setCounter kind (card.counter kind)) = s := by
  obtain ⟨rfl, hcard⟩ := mem_zone_of_find? hs hfind
  let t := s.modifyField card.id (·.setCounter kind count)
  have ht : t.board.Sound := sound_modifyField hs card.id _
  have hboard :
      (t.modifyField card.id (·.setCounter kind (card.counter kind))).board = s.board := by
    refine Board.ext_zone fun name => ?_
    change (t.modifyField card.id _).zone name = s.zone name
    rw [zone_modifyField ht.distinct, zone_modifyField hs.distinct, List.map_map]
    refine (List.map_congr_left fun c hc => ?_).trans (List.map_id _)
    by_cases hid : c.id = card.id
    · obtain ⟨-, rfl⟩ := Board.eq_of_id_eq hs.distinct hc hcard hid
      have hid : (c.mapField (·.setCounter kind count)).id = c.id := rfl
      simpa [hid] using CardInstance.setCounter_setCounter (htidy _ c hc) hcount
    · simp [hid]
  calc t.modifyField card.id (·.setCounter kind (card.counter kind))
      = { s with board :=
          (t.modifyField card.id (·.setCounter kind (card.counter kind))).board } := rfl
    _ = s := by rw [hboard]

/-! ## Adding and removing -/

theorem addCounters_eq (hfind : s.find? id = some card) (hfield : card.isOnField = true)
    (kind : CounterKind) (amount : UInt32) (limit : Option UInt32) :
    s.addCounters id kind amount limit =
      .ok (s.withCounter id kind (atMost limit (raise (card.counter kind) amount))) := by
  rw [addCounters, counterOn_eq hfind hfield]
  rfl

theorem removeCounters_eq (hfind : s.find? id = some card) (hfield : card.isOnField = true)
    (kind : CounterKind) (amount : UInt32) :
    s.removeCounters id kind amount =
      if card.counter kind < amount then
        .error (.fewCounters id (card.counter kind) kind amount)
      else .ok (s.withCounter id kind (card.counter kind - amount)) := by
  rw [removeCounters, counterOn_eq hfind hfield]
  simp only [bind, Except.bind]
  split <;> rfl

theorem toNat_atMost_raise (limit : Option UInt32) (held amount : UInt32) :
    (atMost limit (raise held amount)).toNat =
      min (min (held.toNat + amount.toNat) (UInt32.size - 1))
        (limit.elim (UInt32.size - 1) (·.toNat)) := by
  have hraise := Counter.toNat_raise held amount
  cases limit with
  | none =>
    change (raise held amount).toNat = _
    rw [hraise]
    exact (Nat.min_eq_left (Nat.min_le_right _ _)).symm
  | some most => rw [Counter.toNat_atMost, hraise]; rfl

/-- What was added, and not past the largest number, can be taken away again, and there is no pile
that this would bring back. -/
theorem raise_spec {held amount : UInt32} (h : held.toNat + amount.toNat < UInt32.size) :
    ¬ raise held amount < amount ∧ raise held amount - amount = held ∧
      (raise held amount ≠ 0 ∨ held = 0) := by
  have hraise : (raise held amount).toNat = held.toNat + amount.toNat := by
    rw [Counter.toNat_raise]
    omega
  have henough : ¬ raise held amount < amount := by
    rw [UInt32.lt_iff_toNat_lt]
    omega
  refine ⟨henough, ?_, ?_⟩
  · rw [← UInt32.toNat_inj, UInt32.toNat_sub_of_le _ _ (UInt32.not_lt.mp henough)]
    omega
  · rw [← UInt32.toNat_inj (b := 0), Ne, ← UInt32.toNat_inj, UInt32.toNat_zero]
    omega

/-- What is added can be removed again, which leaves nothing behind. -/
theorem remove_after_add (hs : s.board.Sound) (htidy : s.TidyPiles)
    (hfind : s.find? id = some card) (hfield : card.isOnField = true) {amount : UInt32}
    (hfits : (card.counter kind).toNat + amount.toNat < UInt32.size) :
    ∃ added removed, s.addCounters id kind amount none = .ok added ∧
      added.state.removeCounters id kind amount = .ok removed ∧ removed.state = s := by
  obtain ⟨henough, hleft, hpile⟩ := raise_spec hfits
  let added := s.withCounter id kind (raise (card.counter kind) amount)
  have hafter : added.state.find? id =
      some (card.mapField (·.setCounter kind (raise (card.counter kind) amount))) := by
    change (s.modifyField id _).find? id = _
    rw [find?_modifyField hs.distinct, if_pos rfl, hfind]
    rfl
  have hheld : (card.mapField (·.setCounter kind (raise (card.counter kind) amount))).counter kind =
      raise (card.counter kind) amount := by
    rw [← counter_of_find? hafter, ← UInt32.toNat_inj]
    exact (recounts_withCounter hs htidy hfind hfield kind _).count
  have hremove := removeCounters_eq hafter (by simpa using hfield) kind amount
  rw [hheld, if_neg henough, hleft] at hremove
  exact ⟨added, _, addCounters_eq hfind hfield kind amount none, hremove,
    modifyField_modifyField hs htidy hfind hpile⟩

/-- Counters are added up to a limit, to any copy, or removed from one. -/
inductive Adjusts (most : UInt32) : Snapshot → Snapshot → Prop
  | added {s : Snapshot} {id : InstanceId} {kind : CounterKind} {amount : UInt32} {out : Outcome} :
      s.addCounters id kind amount (some most) = .ok out → Adjusts most s out.state
  | removed {s : Snapshot} {id : InstanceId} {kind : CounterKind} {amount : UInt32}
      {out : Outcome} :
      s.removeCounters id kind amount = .ok out → Adjusts most s out.state

/-- A copy has a number of counters of a kind afterwards that is within the limit or not larger than
before, and nothing else has changed. -/
theorem Adjusts.exists_recounts {most : UInt32} (h : Adjusts most s t) (hs : s.board.Sound)
    (htidy : s.TidyPiles) :
    ∃ id kind count, s.Recounts id kind count t ∧
      (count ≤ most.toNat ∨ count ≤ (s.counter id kind).toNat) := by
  cases h with
  | @added id kind amount out hadd =>
    obtain ⟨held, hheld, -⟩ := bind_eq_ok.mp hadd
    obtain ⟨card, hfind, hfield, -⟩ := of_counterOn hheld
    rw [addCounters_eq hfind hfield] at hadd
    cases hadd
    refine ⟨id, kind, _, recounts_withCounter hs htidy hfind hfield kind _, .inl ?_⟩
    rw [Counter.toNat_atMost]
    exact Nat.min_le_right _ _
  | @removed id kind amount out hremove =>
    obtain ⟨held, hheld, -⟩ := bind_eq_ok.mp hremove
    obtain ⟨card, hfind, hfield, -⟩ := of_counterOn hheld
    rw [removeCounters_eq hfind hfield] at hremove
    split at hremove
    · cases hremove
    · rename_i henough
      cases hremove
      refine ⟨id, kind, _, recounts_withCounter hs htidy hfind hfield kind _, .inr ?_⟩
      rw [counter_of_find? hfind, UInt32.toNat_sub_of_le _ _ (UInt32.not_lt.mp henough)]
      exact Nat.sub_le _ _

/-- One adjustment keeps a count within the limit. -/
theorem Adjusts.counter_le {most : UInt32} (h : Adjusts most s t) (hs : s.board.Sound)
    (htidy : s.TidyPiles) (hle : s.counter id kind ≤ most) :
    t.board.Sound ∧ t.TidyPiles ∧ t.counter id kind ≤ most := by
  obtain ⟨other, otherKind, count, hrecounts, hcount⟩ := h.exists_recounts hs htidy
  refine ⟨Board.check_eq_ok_iff.mp hrecounts.check, hrecounts.tidy, ?_⟩
  by_cases hid : id = other
  · subst hid
    by_cases hkind : kind = otherKind
    · subst hkind
      rw [UInt32.le_iff_toNat_le] at hle ⊢
      rw [hrecounts.count]
      omega
    · rw [hrecounts.kinds kind hkind]
      exact hle
  · have hsame : t.counter id kind = s.counter id kind := by
      rw [counter, counter, hrecounts.others id hid]
    rw [hsame]
    exact hle

theorem counter_le_of_adjusts {most : UInt32} (h : Relation.ReflTransGen (Adjusts most) s t)
    (hs : s.board.Sound) (htidy : s.TidyPiles) (hle : s.counter id kind ≤ most) :
    t.board.Sound ∧ t.TidyPiles ∧ t.counter id kind ≤ most := by
  induction h with
  | refl => exact ⟨hs, htidy, hle⟩
  | tail _ hadjusts ih => exact hadjusts.counter_le ih.1 ih.2.1 ih.2.2

/-- **The algebra of counters.** On a snapshot that passes the check and has tidy piles, counters of
any kind can be added to a card on the field, up to a limit if one is given and never past the
largest number. Removing more than there are is refused; any other number can be removed. Both
change the number of counters of the kind on the card and nothing else, and leave piles tidy. What
was added without a limit, and not past the largest number, can be removed again, which gives the
very snapshot back. Added up to one limit and removed any number of times, counters of which there
are no more than the limit stay within it. -/
theorem counter_algebra (hcheck : s.check = .ok ()) (htidy : s.TidyPiles)
    (hcard : card ∈ s.zone zone) (hzone : zone.isOnField = true) (kind : CounterKind)
    (amount : UInt32) (limit : Option UInt32) :
    (∃ out, s.addCounters card.id kind amount limit = .ok out ∧
      s.Recounts card.id kind
        (min (min ((card.counter kind).toNat + amount.toNat) (UInt32.size - 1))
          (limit.elim (UInt32.size - 1) (·.toNat))) out.state) ∧
    (card.counter kind < amount → ∃ refusal,
      s.removeCounters card.id kind amount = .error refusal ∧
        refusal.code = .insufficientCounters) ∧
    (amount ≤ card.counter kind → ∃ out, s.removeCounters card.id kind amount = .ok out ∧
      s.Recounts card.id kind ((card.counter kind).toNat - amount.toNat) out.state) ∧
    ((card.counter kind).toNat + amount.toNat < UInt32.size →
      ∃ added removed, s.addCounters card.id kind amount none = .ok added ∧
        added.state.removeCounters card.id kind amount = .ok removed ∧ removed.state = s) ∧
    ∀ most, card.counter kind ≤ most → ∀ t, Relation.ReflTransGen (Adjusts most) s t →
      t.counter card.id kind ≤ most := by
  have hs : s.board.Sound := Board.check_eq_ok_iff.mp hcheck
  have hfind : s.find? card.id = some card := find?_of_mem hs hcard
  have hfield : card.isOnField = true := (hs.fielded zone card hcard).trans hzone
  refine ⟨⟨_, addCounters_eq hfind hfield kind amount limit, ?_⟩, fun hfew => ?_,
    fun henough => ?_, remove_after_add hs htidy hfind hfield, fun most hmost t ht => ?_⟩
  · have hadded := recounts_withCounter hs htidy hfind hfield kind
      (atMost limit (raise (card.counter kind) amount))
    rwa [toNat_atMost_raise] at hadded
  · refine ⟨.fewCounters card.id (card.counter kind) kind amount, ?_, rfl⟩
    rw [removeCounters_eq hfind hfield, if_pos hfew]
  · refine ⟨_, by rw [removeCounters_eq hfind hfield, if_neg (UInt32.not_lt.mpr henough)], ?_⟩
    have hremoved := recounts_withCounter hs htidy hfind hfield kind (card.counter kind - amount)
    rwa [UInt32.toNat_sub_of_le _ _ henough] at hremoved
  · refine (counter_le_of_adjusts ht hs htidy ?_).2.2
    rwa [counter_of_find? hfind]

/-- A field spell with three spell counters and one of another kind. -/
def stackedField : Snapshot :=
  { Sequencer.cardless with
    board := {
      fieldZone := [{
        id := ⟨1⟩
        data := .spell ⟨1⟩ "Field" .field
        location := .fieldZone
        field := some
          { Placement.faceUp.fresh with counters := [⟨.spell, 3⟩, ⟨.generic 7, 1⟩] } }] } }

/-- Four more with a limit of five make five, four cannot be removed, and with all three removed the
pile is gone. Two more of a new kind can be added and removed without a trace. -/
theorem counter_algebra_stackedField :
    (∃ out, stackedField.addCounters ⟨1⟩ .spell 4 (some 5) = .ok out ∧
      (out.state.counter ⟨1⟩ .spell).toNat = 5 ∧ out.state.counter ⟨1⟩ (.generic 7) = 1) ∧
    (∃ refusal, stackedField.removeCounters ⟨1⟩ .spell 4 = .error refusal ∧
      refusal.code = .insufficientCounters) ∧
    (∃ out, stackedField.removeCounters ⟨1⟩ .spell 3 = .ok out ∧
      (out.state.counter ⟨1⟩ .spell).toNat = 0 ∧ out.state.TidyPiles) ∧
    ∃ added removed, stackedField.addCounters ⟨1⟩ (.generic 8) 2 none = .ok added ∧
      added.state.removeCounters ⟨1⟩ (.generic 8) 2 = .ok removed ∧
      removed.state = stackedField := by
  have hcheck : stackedField.check = .ok () := rfl
  have htidy : stackedField.TidyPiles := by
    intro name card hcard
    cases name with
    | fieldZone =>
      obtain rfl := List.mem_singleton.mp hcard
      exact ⟨by decide, by decide⟩
    | _ => cases hcard
  have hcard : stackedField.board.fieldZone.head (by decide) ∈ stackedField.zone .fieldZone :=
    List.mem_cons_self
  obtain ⟨hadd, -⟩ := counter_algebra hcheck htidy hcard rfl .spell 4 (some 5)
  obtain ⟨-, hfew, -⟩ := counter_algebra hcheck htidy hcard rfl .spell 4 none
  obtain ⟨-, -, hremove, -⟩ := counter_algebra hcheck htidy hcard rfl .spell 3 none
  obtain ⟨-, -, -, hback, -⟩ := counter_algebra hcheck htidy hcard rfl (.generic 8) 2 none
  obtain ⟨added, hadded, hfive⟩ := hadd
  obtain ⟨removed, hremoved, hnone⟩ := hremove (by decide)
  exact ⟨⟨added, hadded, hfive.count, hfive.kinds (.generic 7) (by decide)⟩, hfew (by decide),
    ⟨removed, hremoved, hnone.count, hnone.tidy⟩, hback (by decide)⟩

end Snapshot

end SoloDuel
