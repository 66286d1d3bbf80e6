import SoloDuel.Proofs.Sequencer.Protocol
import SoloDuel.Proofs.Snapshot.Deliveries
/-!
# Discards

A discard sends cards from the hand to the graveyard one at a time and asks of each, when its turn
comes, whether it is still in the hand. A card that is listed twice has left the hand by then. So a
discard succeeds exactly for different cards in the hand, in any order.

* `nodup_of_foldlM_discardOne` — what a list of cards that is discarded is made of.
* `exists_discard_iff` — when a discard succeeds; `discard_append_iff` — a discard in two parts.
* `Snapshot.Discards` — what a discard changes; `Snapshot.discard_exact`.
-/

namespace SoloDuel.Snapshot

variable {s t : Snapshot} {id : InstanceId} {ids : List InstanceId} {out : Outcome}

/-- A card is discarded from the hand only. -/
theorem exists_of_discardOne (hs : s.board.Sound) (h : s.discardOne id = .ok t) :
    ∃ card, s.find? id = some card ∧ card.location = .hand ∧
      t = s.moved card .graveyard .faceUp := by
  obtain ⟨⟨⟩, hrequire, hrest⟩ := bind_eq_ok.mp h
  obtain ⟨⟨origin, next⟩, hmove, hnext⟩ := bind_eq_ok.mp hrest
  obtain ⟨card, hfind, -, -, rfl⟩ := (relocate_eq_ok_iff hs.distinct).mp hmove
  cases hnext
  refine ⟨card, hfind, ?_, rfl⟩
  by_contra helsewhere
  simp [requireIn, location?, hfind, helsewhere] at hrequire

/-- **Cards that are discarded one after another are different and all in the hand at first.** -/
theorem nodup_of_foldlM_discardOne (hs : s.board.Sound) (h : ids.foldlM discardOne s = .ok t) :
    ids.Nodup ∧ ∀ id ∈ ids, s.location? id = some .hand := by
  induction ids generalizing s with
  | nil => simp
  | cons id rest ih =>
    rw [List.foldlM_cons, bind_eq_ok] at h
    obtain ⟨u, hfirst, hlater⟩ := h
    obtain ⟨card, hfind, hlocation, rfl⟩ := exists_of_discardOne hs hfirst
    have hmoved := delivers_moved hs hfind .graveyard
    obtain ⟨hnodup, hhand⟩ := ih (sound_moved hs hfind _ _) hlater
    -- the card that has just gone is in the graveyard, so that it cannot be discarded again
    have hgone : id ∉ rest := by
      intro hid
      have hgraveyard := hmoved.arrived id List.mem_cons_self
      rw [hhand id hid] at hgraveyard
      cases hgraveyard
    refine ⟨List.nodup_cons.mpr ⟨hgone, hnodup⟩, List.forall_mem_cons.mpr ⟨?_, ?_⟩⟩
    · rw [location?, hfind, Option.map_some, hlocation]
    · intro other hother
      have hne : other ∉ [id] := by
        rintro hmem
        rw [List.mem_singleton] at hmem
        exact hgone (hmem ▸ hother)
      rw [← hhand other hother, location?, location?, hmoved.others other hne]

theorem discard_leaves_iff :
    (∃ out, s.discard ids = .ok out ∧ out.state = t) ↔ ids.foldlM discardOne s = .ok t := by
  unfold discard
  cases ids.foldlM discardOne s <;> simp [bind, Except.bind, pure, Except.pure]

/-- **A discard succeeds exactly for different cards in the hand.** -/
theorem exists_discard_iff (hs : s.board.Sound) :
    (∃ out, s.discard ids = .ok out) ↔ ids.Nodup ∧ ∀ id ∈ ids, s.location? id = some .hand := by
  constructor
  · rintro ⟨out, h⟩
    exact nodup_of_foldlM_discardOne hs (discard_leaves_iff.mp ⟨out, h, rfl⟩)
  · rintro ⟨hnodup, hhand⟩
    obtain ⟨out, hout, -⟩ := delivers_of_discard hs hnodup hhand
    exact ⟨out, hout⟩

/-- A discard comes to the same as two discards that share its cards. -/
theorem discard_append_iff {first later : List InstanceId} :
    (∃ out, s.discard (first ++ later) = .ok out ∧ out.state = t) ↔
      ∃ before, s.discard first = .ok before ∧
        ∃ after, before.state.discard later = .ok after ∧ after.state = t := by
  simp only [discard_leaves_iff, List.foldlM_append, bind_eq_ok]
  constructor
  · rintro ⟨u, hfirst, hlater⟩
    obtain ⟨before, hbefore, rfl⟩ := discard_leaves_iff.mpr hfirst
    exact ⟨before, hbefore, hlater⟩
  · rintro ⟨before, hbefore, hlater⟩
    exact ⟨before.state, discard_leaves_iff.mp ⟨before, hbefore, rfl⟩, hlater⟩

/-- Nothing but the board changes. -/
theorem rest_of_discard (hs : s.board.Sound) (h : s.discard ids = .ok out) :
    out.state = { s with board := out.state.board } := by
  have hkept : out.state.board.Sound ∧ out.state = { s with board := out.state.board } := by
    refine foldlM_induction (P := fun u => u.board.Sound ∧ u = { s with board := u.board })
      (fun u id v hu hv => ?_) ⟨hs, rfl⟩ (discard_leaves_iff.mp ⟨out, h, rfl⟩)
    obtain ⟨card, hfind, -, rfl⟩ := exists_of_discardOne hu.1 hv
    let board := (u.moved card .graveyard .faceUp).board
    exact ⟨sound_moved hu.1 hfind _ _, congrArg (fun w => { w with board := board }) hu.2⟩
  exact hkept.2

/-- A discard has sent cards from the hand to the graveyard. They lie there on top in the order in
which they were listed, as they were in the hand, and the other cards of the hand have kept their
order. Nothing else has changed, and nothing is reported. -/
structure Discards (s : Snapshot) (ids : List InstanceId) (out : Outcome) : Prop where
  hand : out.state.zone .hand = (s.zone .hand).filter (·.id ∉ ids)
  graveyard : ∃ cards : List CardInstance, cards.map (·.id) = ids ∧
    (∀ c ∈ cards, c ∈ s.zone .hand) ∧
    out.state.zone .graveyard =
      s.zone .graveyard ++ cards.map fun c => { c with location := .graveyard }
  others : ∀ name, name ≠ .hand → name ≠ .graveyard → out.state.zone name = s.zone name
  rest : out.state = { s with board := out.state.board }
  events : out.events = []

/-- A zone other than the hand holds no card that is discarded. -/
theorem filter_zone_of_inHand (hs : s.board.Sound)
    (hhand : ∀ id ∈ ids, s.location? id = some .hand) {name : ZoneName} (hname : name ≠ .hand) :
    (s.zone name).filter (·.id ∉ ids) = s.zone name := by
  refine List.filter_eq_self.mpr fun c hc => decide_eq_true fun hid => hname ?_
  have hlocation := hhand c.id hid
  rw [location?_of_mem hs hc] at hlocation
  exact Option.some.inj hlocation

theorem discards_of_discard (hs : s.board.Sound) (h : s.discard ids = .ok out) :
    s.Discards ids out := by
  obtain ⟨hnodup, hhand⟩ := (exists_discard_iff hs).mp ⟨out, h⟩
  obtain ⟨out', hout', hdelivers⟩ := delivers_of_discard hs hnodup hhand
  obtain rfl : out = out' := Except.ok.inj (h.symm.trans hout')
  obtain ⟨cards, hids, hfound, htop⟩ := hdelivers.top
  have hcards : ∀ c ∈ cards, c ∈ s.zone .hand := by
    intro c hc
    have hlocation := hhand c.id (hids ▸ List.mem_map_of_mem hc)
    rw [location?, hfound c hc, Option.map_some, Option.some.injEq] at hlocation
    exact hlocation ▸ (mem_zone_of_find? hs (hfound c hc)).2
  refine ⟨hdelivers.ordered .hand (by decide) False.elim, ⟨cards, hids, hcards, ?_⟩,
    fun name hne hgraveyard => ?_, rest_of_discard hs h, events_of_discard h⟩
  · rw [htop, filter_zone_of_inHand hs hhand (by decide)]
    congr 1
    exact List.map_congr_left fun c hc => movedTo_of_mem hs (hcards c hc) rfl rfl .faceUp
  · rw [hdelivers.ordered name hgraveyard False.elim, filter_zone_of_inHand hs hhand hne]

/-- **Discarding is exact.** On a snapshot that passes the check, a discard of a list of cards
succeeds exactly if the cards are different and all in the hand. They then lie on top of the
graveyard in the order of the list, and nothing else has changed. Discarding one list and then
another comes to the same as discarding both at once, also in whether it succeeds. -/
theorem discard_exact (hcheck : s.check = .ok ()) :
    (∀ ids, (∃ out, s.discard ids = .ok out) ↔
        ids.Nodup ∧ ∀ id ∈ ids, s.board.holds .hand id = true) ∧
      (∀ ids out, s.discard ids = .ok out → s.Discards ids out) ∧
      ∀ first later t, (∃ out, s.discard (first ++ later) = .ok out ∧ out.state = t) ↔
        ∃ before, s.discard first = .ok before ∧
          ∃ after, before.state.discard later = .ok after ∧ after.state = t := by
  have hs : s.board.Sound := Board.check_eq_ok_iff.mp hcheck
  refine ⟨fun ids => ?_, fun ids out => discards_of_discard hs,
    fun first later t => discard_append_iff⟩
  simp only [exists_discard_iff hs, location?_eq_some_iff hs]

/-- Three cards in the hand, and one in the graveyard. -/
def threeInHand : Snapshot :=
  let spell := CardData.spell ⟨1⟩ "Spell" .normal
  { Sequencer.cardless with
    board := {
      hand := [.new ⟨1⟩ spell .hand, .new ⟨2⟩ spell .hand, .new ⟨3⟩ spell .hand]
      graveyard := [.new ⟨4⟩ spell .graveyard] } }

/-- The last and then the first card are discarded. None is discarded twice. -/
theorem discard_threeInHand : threeInHand.check = .ok () ∧
    (∃ out, threeInHand.discard [⟨3⟩, ⟨1⟩] = .ok out ∧
      (out.state.zone .hand).map (·.id) = [⟨2⟩] ∧
      (out.state.zone .graveyard).map (·.id) = [⟨4⟩, ⟨3⟩, ⟨1⟩]) ∧
    ¬ ∃ out, threeInHand.discard [⟨3⟩, ⟨1⟩, ⟨3⟩] = .ok out := by
  have hcheck : threeInHand.check = .ok () := rfl
  obtain ⟨hsucceeds, hdiscards, -⟩ := discard_exact hcheck
  obtain ⟨out, hout⟩ := (hsucceeds [⟨3⟩, ⟨1⟩]).mpr (by decide)
  have hdone := hdiscards _ out hout
  refine ⟨hcheck, ⟨out, hout, ?_, ?_⟩, fun hagain => ?_⟩
  · rw [hdone.hand]
    rfl
  · obtain ⟨cards, hids, -, hgraveyard⟩ := hdone.graveyard
    rw [hgraveyard, List.map_append, List.map_map]
    exact congrArg _ hids
  · have hnodup := ((hsucceeds _).mp hagain).1
    revert hnodup
    decide

end SoloDuel.Snapshot
