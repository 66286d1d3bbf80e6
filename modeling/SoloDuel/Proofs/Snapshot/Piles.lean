import SoloDuel.Proofs.Snapshot.Counters
/-!
# Counters that are taken away one at a time

Piles are kept tidy: each kind of counter has one pile, and a pile that has become empty is gone. On
tidy piles taking away one counter touches the pile of its kind and no other.

* `Counter.Tidy` — piles as they are kept.
* `Counter.takeOne` — one counter of a kind taken away; `put_eq_takeOne` says that writing the
  smaller number does this, `Tidy.takeOne` that the piles stay tidy.
* `Snapshot.LosesCounter` — a copy has lost one counter and nothing else has changed;
  `exists_losesCounter` says when it can.
-/

namespace SoloDuel

namespace Counter

variable {kind other : CounterKind} {piles : List Counter}

/-- Piles as they are kept: one for each kind that there are counters of, and none empty. -/
structure Tidy (piles : List Counter) : Prop where
  distinct : (piles.map (·.kind)).Nodup
  positive : ∀ pile ∈ piles, 0 < pile.count

/-- The piles with one counter of a kind taken away. A pile that becomes empty is gone. -/
def takeOne (kind : CounterKind) (piles : List Counter) : List Counter :=
  (piles.map fun pile => if pile.kind = kind then { pile with count := pile.count - 1 } else pile)
    |>.filter (0 < ·.count)

/-- Piles of other kinds stay as they are. -/
theorem takeOne_of_notMem (hpositive : ∀ pile ∈ piles, 0 < pile.count)
    (hkind : kind ∉ piles.map (·.kind)) : takeOne kind piles = piles := by
  have hsame : (piles.map fun pile =>
      if pile.kind = kind then { pile with count := pile.count - 1 } else pile) = piles := by
    refine (List.map_congr_left fun pile hpile => if_neg fun heq => hkind ?_).trans
      (List.map_id piles)
    exact List.mem_map.mpr ⟨pile, hpile, heq⟩
  rw [takeOne, hsame]
  exact List.filter_eq_self.mpr fun pile hpile => decide_eq_true (hpositive pile hpile)

/-- **Writing the smaller number takes one counter away.** -/
theorem put_eq_takeOne (h : Tidy piles) (hheld : held kind piles ≠ 0) :
    put kind (held kind piles - 1) piles = takeOne kind piles := by
  induction piles with
  | nil => exact absurd rfl hheld
  | cons pile rest ih =>
    have hdistinct := List.nodup_cons.mp h.distinct
    have hpositive := List.forall_mem_cons.mp h.positive
    by_cases hkind : pile.kind = kind
    · have hrest : takeOne kind rest = rest := takeOne_of_notMem hpositive.2 (hkind ▸ hdistinct.1)
      rw [held_cons, if_pos hkind, put, if_pos hkind]
      rw [takeOne] at hrest
      rw [takeOne, List.map_cons, if_pos hkind, List.filter_cons, hrest]
      by_cases hlast : pile.count - 1 = 0
      · simp [hlast]
      · simp [hlast, UInt32.pos_iff_ne_zero]
    · rw [held_cons, if_neg hkind] at hheld
      have hrest := ih ⟨hdistinct.2, hpositive.2⟩ hheld
      rw [takeOne] at hrest
      rw [held_cons, if_neg hkind, put, if_neg hkind, hrest, takeOne, List.map_cons,
        if_neg hkind, List.filter_cons, if_pos (decide_eq_true hpositive.1)]

theorem Tidy.takeOne (h : Tidy piles) (kind : CounterKind) : Tidy (takeOne kind piles) where
  distinct := by
    have hkinds : (piles.map fun pile =>
        if pile.kind = kind then { pile with count := pile.count - 1 } else pile).map (·.kind) =
          piles.map (·.kind) := by
      rw [List.map_map]
      refine List.map_congr_left fun pile _ => ?_
      simp only [Function.comp_apply]
      split <;> rfl
    exact (List.filter_sublist.map _).nodup (hkinds ▸ h.distinct)
  positive := fun pile hpile => of_decide_eq_true (List.mem_filter.mp hpile).2

theorem held_takeOne (h : Tidy piles) (hheld : held kind piles ≠ 0) :
    held kind (takeOne kind piles) = held kind piles - 1 := by
  rw [← put_eq_takeOne h hheld, held_put_self (.inr h.distinct)]

end Counter

/-- The copy with one counter of a kind taken away. -/
def CardInstance.takeOne (kind : CounterKind) (c : CardInstance) : CardInstance :=
  c.mapField fun f => { f with counters := Counter.takeOne kind f.counters }

namespace CardInstance

variable {c : CardInstance} {kind : CounterKind}

/-- A copy that has counters is on the field. -/
theorem isOnField_of_counter (h : c.counter kind ≠ 0) : c.isOnField = true := by
  cases hfield : c.isOnField with
  | true => rfl
  | false =>
    rw [counter_eq_held, piles_eq_nil hfield] at h
    exact absurd rfl h

theorem piles_takeOne (c : CardInstance) (kind : CounterKind) :
    (c.takeOne kind).piles = Counter.takeOne kind c.piles := by
  unfold takeOne mapField piles
  cases c.field <;> rfl

theorem counter_takeOne (h : Counter.Tidy c.piles) (hcounter : c.counter kind ≠ 0) :
    (c.takeOne kind).counter kind = c.counter kind - 1 := by
  rw [counter_eq_held] at hcounter
  rw [counter_eq_held, counter_eq_held, piles_takeOne, Counter.held_takeOne h hcounter]

/-- On a copy with tidy piles writing the smaller number takes one counter away. -/
theorem mapField_setCounter_eq (h : Counter.Tidy c.piles) (hcounter : c.counter kind ≠ 0) :
    c.mapField (·.setCounter kind (c.counter kind - 1)) = c.takeOne kind := by
  rw [counter_eq_held] at hcounter ⊢
  unfold takeOne mapField
  cases hfield : c.field with
  | none => rfl
  | some f =>
    have hpiles : c.piles = f.counters := by rw [piles, hfield]; rfl
    rw [hpiles] at h hcounter ⊢
    simp only [Option.map_some, FieldState.setCounter, Counter.put_eq_takeOne h hcounter]

end CardInstance

namespace Snapshot

variable {s t : Snapshot} {id : InstanceId} {card : CardInstance} {kind : CounterKind}

/-- A copy has lost one counter of a kind. It lies as before, its other counters are the same, and
nothing else has changed. -/
structure LosesCounter (kind : CounterKind) (id : InstanceId) (s t : Snapshot) : Prop where
  fewer : (t.counter id kind).toNat + 1 = (s.counter id kind).toNat
  zones : ∀ name, t.zone name =
    (s.zone name).map fun c => if c.id = id then c.takeOne kind else c
  rest : t = { s with board := t.board }

theorem counter_of_find? (h : s.find? id = some card) : s.counter id kind = card.counter kind := by
  rw [counter, h]

/-- Writing the smaller number on a copy with tidy piles is losing one counter. -/
theorem losesCounter_modifyField (hs : s.board.Sound) (hfind : s.find? id = some card)
    (htidy : Counter.Tidy card.piles) (hcounter : card.counter kind ≠ 0) :
    LosesCounter kind id s (s.modifyField id (·.setCounter kind (card.counter kind - 1))) ∧
      (s.modifyField id (·.setCounter kind (card.counter kind - 1))).find? id =
        some (card.takeOne kind) := by
  obtain ⟨rfl, hcard⟩ := mem_zone_of_find? hs hfind
  have hwritten := CardInstance.mapField_setCounter_eq htidy hcounter
  have hafter : (s.modifyField card.id (·.setCounter kind (card.counter kind - 1))).find? card.id =
      some (card.takeOne kind) := by
    rw [find?_modifyField hs.distinct, if_pos rfl, hfind, Option.map_some, hwritten]
  refine ⟨⟨?_, fun name => ?_, rfl⟩, hafter⟩
  · have hpos : 0 < (card.counter kind).toNat := UInt32.pos_iff_ne_zero.mpr hcounter
    have hone : (1 : UInt32) ≤ card.counter kind := hpos
    rw [counter_of_find? hafter, counter_of_find? hfind,
      CardInstance.counter_takeOne htidy hcounter, UInt32.toNat_sub_of_le _ _ hone]
    exact Nat.sub_add_cancel hpos
  · rw [zone_modifyField hs.distinct]
    refine List.map_congr_left fun c hc => ?_
    split
    · -- the copy with the number is the one that was found
      rename_i hid
      obtain ⟨-, rfl⟩ := Board.eq_of_id_eq hs.distinct hc hcard hid
      exact hwritten
    · rfl

/-- **A copy with a counter on tidy piles can lose it.** -/
theorem exists_losesCounter (hs : s.board.Sound) (hfind : s.find? id = some card)
    (htidy : Counter.Tidy card.piles) (hcounter : card.counter kind ≠ 0) :
    ∃ out, s.removeCounters id kind 1 = .ok out ∧ out.events = [] ∧
      LosesCounter kind id s out.state ∧ out.state.board.Sound ∧
      out.state.find? id = some (card.takeOne kind) := by
  obtain ⟨hloses, hafter⟩ := losesCounter_modifyField hs hfind htidy hcounter
  have hheld := counterOn_eq hfind (CardInstance.isOnField_of_counter hcounter) kind
  have henough : ¬ card.counter kind < 1 := by
    rw [UInt32.lt_one_iff]
    exact hcounter
  refine ⟨s.withCounter id kind (card.counter kind - 1), ?_, rfl, hloses,
    sound_modifyField hs id _, hafter⟩
  rw [removeCounters, hheld]
  simp only [bind, Except.bind, if_neg henough]
  rfl

end Snapshot

end SoloDuel
