import SoloDuel.Play.Command
import SoloDuel.Proofs.Board.Moves
import SoloDuel.Proofs.Snapshot.Operations
/-!
# What an operation touches

An operation touches the board, or the board and the generator, or the life of one side, and nothing
else. Which of the three it is can be read off the operation, and with it whether a deck is shuffled
and what is reported about life.

* `Snapshot.BoardOnly` — nothing but the board has changed; `boardOnly_of_draw` and the like are the
  operations of which this is true.
* `Operation.shuffledDeck?` — the cards that an operation shuffles.
* `Operation.Touches` — the three things that can come of an operation; `touches_of_perform` says
  that one of them does.
-/

namespace SoloDuel

namespace Snapshot

variable {s t u : Snapshot} {out : Outcome} {id : InstanceId} {target origin : ZoneName}
  {placement : Placement}

/-! ## The board alone -/

/-- Nothing but the board has changed. -/
def BoardOnly (s t : Snapshot) : Prop := t = { s with board := t.board }

theorem BoardOnly.refl (s : Snapshot) : s.BoardOnly s := rfl

theorem BoardOnly.trans (h₁ : s.BoardOnly t) (h₂ : t.BoardOnly u) : s.BoardOnly u := by
  rw [BoardOnly, h₂, h₁]

theorem BoardOnly.rng_eq (h : s.BoardOnly t) : t.rng = s.rng := by rw [h]

theorem BoardOnly.life_eq (h : s.BoardOnly t) : t.life = s.life := by rw [h]

theorem boardOnly_modifyField (s : Snapshot) (id : InstanceId) (f : FieldState → FieldState) :
    s.BoardOnly (s.modifyField id f) := rfl

theorem boardOnly_of_relocate (h : s.relocate id target placement = .ok (origin, t)) :
    s.BoardOnly t := by
  unfold relocate at h
  split at h
  · cases h
  · split at h
    · cases h
    · split at h <;> cases h
      rfl

theorem boardOnly_of_moveCard (h : s.moveCard id target placement = .ok out) :
    s.BoardOnly out.state := by
  obtain ⟨⟨origin, next⟩, hmove, hout⟩ := bind_eq_ok.mp h
  cases hout
  exact boardOnly_of_relocate hmove

theorem boardOnly_of_moveToField (h : s.moveToField id target placement = .ok out) :
    s.BoardOnly out.state := by
  rw [moveToField] at h
  split at h
  · exact boardOnly_of_moveCard h
  · cases h

theorem boardOnly_of_setCard (h : s.setCard id target placement = .ok out) :
    s.BoardOnly out.state := by
  obtain ⟨moved, hmove, hout⟩ := bind_eq_ok.mp h
  cases hout
  exact (boardOnly_of_moveToField hmove).trans (boardOnly_modifyField _ _ _)

theorem boardOnly_of_flipFaceUp (h : s.flipFaceUp id = .ok out) : s.BoardOnly out.state := by
  rw [flipFaceUp] at h
  split at h
  · cases h
  · split at h
    · cases h
      exact boardOnly_modifyField _ _ _
    · cases h

theorem boardOnly_of_drawCards {n : Nat} (h : drawCards n s = .ok t) : s.BoardOnly t := by
  induction n generalizing s with
  | zero =>
    cases h
    exact .refl _
  | succ n ih =>
    rw [drawCards] at h
    split at h
    · cases h
    · obtain ⟨⟨origin, next⟩, hmove, hrest⟩ := bind_eq_ok.mp h
      exact (boardOnly_of_relocate hmove).trans (ih hrest)

theorem boardOnly_of_draw {n : Nat} (h : s.draw n = .ok out) : s.BoardOnly out.state := by
  rw [draw] at h
  split at h
  · cases h
  · obtain ⟨next, hdraw, hout⟩ := bind_eq_ok.mp h
    cases hout
    exact boardOnly_of_drawCards hdraw

theorem boardOnly_of_discard {ids : List InstanceId} (h : s.discard ids = .ok out) :
    s.BoardOnly out.state := by
  obtain ⟨next, hfold, hout⟩ := bind_eq_ok.mp h
  cases hout
  refine foldlM_induction (P := s.BoardOnly) (fun t id u ht hu => ?_) (.refl s) hfold
  obtain ⟨⟨⟩, -, hrest⟩ := bind_eq_ok.mp hu
  obtain ⟨⟨origin, moved⟩, hmove, hout⟩ := bind_eq_ok.mp hrest
  cases hout
  exact ht.trans (boardOnly_of_relocate hmove)

theorem boardOnly_of_addCounters {kind : CounterKind} {amount : UInt32} {limit : Option UInt32}
    (h : s.addCounters id kind amount limit = .ok out) : s.BoardOnly out.state := by
  obtain ⟨held, -, hout⟩ := bind_eq_ok.mp h
  cases hout
  exact boardOnly_modifyField _ _ _

theorem boardOnly_of_removeCounters {kind : CounterKind} {amount : UInt32}
    (h : s.removeCounters id kind amount = .ok out) : s.BoardOnly out.state := by
  obtain ⟨held, -, hrest⟩ := bind_eq_ok.mp h
  split at hrest
  · cases hrest
  · cases hrest
    exact boardOnly_modifyField _ _ _

theorem boardOnly_of_setCounters {kind : CounterKind} {count : UInt32} {limit : Option UInt32}
    (h : s.setCounters id kind count limit = .ok out) : s.BoardOnly out.state := by
  obtain ⟨held, -, hout⟩ := bind_eq_ok.mp h
  cases hout
  exact boardOnly_modifyField _ _ _

/-! ## The deck -/

/-- A card that leaves for the hand leaves the deck as it is but for itself. -/
theorem zone_deck_of_relocate (h : s.relocate id .hand placement = .ok (origin, t)) :
    t.zone .deck = (s.zone .deck).eraseP (·.id = id) := by
  unfold relocate at h
  split at h
  · cases h
  split at h
  · cases h
  split at h
  · cases h
  rename_i recorded board hmove
  cases h
  obtain ⟨⟨card, rest⟩, hremove, hout⟩ := Option.bind_eq_some_iff.mp hmove
  cases hout
  obtain ⟨⟨name, place⟩, hlocate, hfound⟩ := Option.bind_eq_some_iff.mp hremove
  obtain ⟨card, hcard, hout⟩ := Option.bind_eq_some_iff.mp hfound
  cases hout
  have hhand : ZoneName.deck ≠ (card.movedTo .hand placement).location := by rintro ⟨⟩
  rw [zone, Board.zone_insert_top, if_neg hhand, zone, List.eraseP_eq_eraseIdx]
  cases hdeck : (s.board.zone .deck).findIdx? (·.id = id) with
  | some i =>
    have hfirst : s.board.locate id = some (.deck, i) := by
      simp [Board.locate, ZoneName.all, hdeck]
    obtain ⟨rfl, rfl⟩ := Prod.mk.inj (Option.some.inj (hfirst.symm.trans hlocate))
    exact Board.zone_setZone_self _ _ _
  | none =>
    have hname : ZoneName.deck ≠ name := by
      rintro rfl
      obtain ⟨c, hc, hid⟩ := Board.exists_of_locate hlocate
      have hne := List.findIdx?_eq_none_iff.mp hdeck c (List.mem_of_getElem? hc)
      simp [hid] at hne
    exact Board.zone_setZone_of_ne _ hname _

/-- A search takes the card out of the deck and shuffles the others. -/
theorem exists_of_search (h : s.search id = .ok out) :
    ∃ t, s.BoardOnly t ∧ t.zone .deck = (s.zone .deck).eraseP (·.id = id) ∧
      out.state = t.shuffle := by
  obtain ⟨⟨⟩, -, hrest⟩ := bind_eq_ok.mp h
  obtain ⟨⟨origin, t⟩, hmove, hout⟩ := bind_eq_ok.mp hrest
  cases hout
  exact ⟨t, boardOnly_of_relocate hmove, zone_deck_of_relocate hmove, rfl⟩

end Snapshot

/-! ## Operations -/

namespace Operation

open Snapshot

variable {s : Snapshot} {o : Operation} {out : Outcome}

/-- The cards that an operation shuffles, if it shuffles the deck: the deck at hand, for a search
and for adding a card from the deck without that card. -/
def shuffledDeck? (s : Snapshot) : Operation → Option (List CardInstance)
  | search id => some ((s.zone .deck).eraseP (·.id = id))
  | addToHand id origin =>
    if origin = .deck then some ((s.zone .deck).eraseP (·.id = id)) else none
  | shuffleDeck => some (s.zone .deck)
  | _ => none

/-! Numbers of life are words of 64 bits, and amounts words of 32. -/

theorem zero_le_max (n : Int64) : 0 ≤ max n 0 := by
  change (0 : Int64) ≤ if n ≤ 0 then 0 else n
  split
  case isTrue => exact Int64.le_refl 0
  case isFalse hn => exact Int64.le_of_lt (Int64.not_le.mp hn)

theorem toInt_sub_of_nonneg {a b : Int64} (ha : 0 ≤ a) (hb : 0 ≤ b) :
    (a - b).toInt = a.toInt - b.toInt := by
  rw [Int64.le_iff_toInt_le, Int64.toInt_zero] at ha hb
  have hale := a.toInt_lt
  have hble := b.toInt_lt
  rw [Int64.toInt_sub]
  exact Int.bmod_eq_of_le (by omega) (by omega)

theorem toInt_ofNat_toNat (n : UInt32) : (Int64.ofNat n.toNat).toInt = n.toNat :=
  Int64.toInt_ofNat_of_lt (Nat.lt_trans n.toNat_lt (by decide))

/-- What can come of an operation. -/
inductive Touches (s : Snapshot) (o : Operation) (out : Outcome) : Prop
  /-- Nothing but the board changes. -/
  | board : o.shuffledDeck? s = none → s.BoardOnly out.state →
      (∀ event ∈ out.events, event.kind ≠ .lifeChanged) → Touches s o out
  /-- The board changes, and then the deck is shuffled. -/
  | shuffled {t : Snapshot} : o.shuffledDeck? s = some (t.zone .deck) → s.BoardOnly t →
      out.state = t.shuffle → out.events = [] → Touches s o out
  /-- The life of a side changes by what is reported, and no more is lost than there is. -/
  | life {side : Side} {delta : Int64} : o.shuffledDeck? s = none →
      (0 ≤ s.life.get side → 0 ≤ (s.life.get side).toInt + delta.toInt) →
      out.state = { s with life := s.life.set side (s.life.get side + delta) } →
      out.events = [.lifeChanged side delta] → Touches s o out

theorem Touches.of_silent (hshuffled : o.shuffledDeck? s = none) (hboard : s.BoardOnly out.state)
    (hevents : out.events = []) : o.Touches s out := by
  refine .board hshuffled hboard ?_
  simp [hevents]

theorem Touches.of_search {id : InstanceId}
    (hshuffled : o.shuffledDeck? s = some ((s.zone .deck).eraseP (·.id = id)))
    (h : s.search id = .ok out) : o.Touches s out := by
  obtain ⟨t, hboard, hdeck, hout⟩ := exists_of_search h
  exact .shuffled (hdeck ▸ hshuffled) hboard hout (events_of_search h)

theorem Touches.of_draw {n : Nat} (hshuffled : o.shuffledDeck? s = none)
    (h : s.draw n = .ok out) : o.Touches s out := by
  refine .board hshuffled (boardOnly_of_draw h) ?_
  simp [events_of_draw h, Event.kind]

/-- **An operation touches the board, the board and the generator, or the life of one side.** -/
theorem touches_of_perform (h : o.perform s = .ok out) : o.Touches s out := by
  cases o with
  | moveCard | sendToGraveyard | banish =>
    exact .of_silent rfl (boardOnly_of_moveCard h) (events_of_moveCard h)
  | draw | drawUntil => exact .of_draw rfl h
  | discard => exact .of_silent rfl (boardOnly_of_discard h) (events_of_discard h)
  | search => exact .of_search rfl h
  | addToHand id origin =>
    by_cases hdeck : origin = .deck
    · have hsearch : s.search id = .ok out := by simpa [perform, Snapshot.addToHand, hdeck] using h
      exact .of_search (if_pos hdeck) hsearch
    · have hevents := events_of_addToHand h
      simp only [perform, Snapshot.addToHand, if_neg hdeck] at h
      obtain ⟨⟨⟩, -, hrest⟩ := bind_eq_ok.mp h
      obtain ⟨⟨recorded, t⟩, hmove, hout⟩ := bind_eq_ok.mp hrest
      cases hout
      exact .of_silent (if_neg hdeck) (boardOnly_of_relocate hmove) hevents
  | moveToField =>
    exact .of_silent rfl (boardOnly_of_moveToField h) (events_of_moveToField h)
  | setCard => exact .of_silent rfl (boardOnly_of_setCard h) (events_of_setCard h)
  | flipFaceUp => exact .of_silent rfl (boardOnly_of_flipFaceUp h) (events_of_flipFaceUp h)
  | shuffleDeck =>
    cases h
    exact .shuffled rfl (.refl s) rfl rfl
  | addCounters => exact .of_silent rfl (boardOnly_of_addCounters h) (events_of_addCounters h)
  | removeCounters =>
    exact .of_silent rfl (boardOnly_of_removeCounters h) (events_of_removeCounters h)
  | setCounters => exact .of_silent rfl (boardOnly_of_setCounters h) (events_of_setCounters h)
  | gainLife side amount =>
    cases h
    refine .life rfl (fun hlife => ?_) rfl rfl
    rw [toInt_ofNat_toNat]
    rw [Int64.le_iff_toInt_le, Int64.toInt_zero] at hlife
    omega
  | loseLife side amount =>
    cases h
    have hafter := zero_le_max (s.life.get side - Int64.ofNat amount.toNat)
    refine .life rfl (fun hlife => ?_) ?_ rfl
    · rw [toInt_sub_of_nonneg hafter hlife]
      rw [Int64.le_iff_toInt_le, Int64.toInt_zero] at hafter
      omega
    · rw [Int64.add_comm, Int64.sub_add_cancel]

end Operation

end SoloDuel
