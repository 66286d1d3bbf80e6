import SoloDuel.Proofs.Snapshot.Success
/-!
# Copies put on top of a zone

Several copies that leave one after another for the same zone lie there in the order in which they
were taken. What is left of the other zones keeps its order, unless the deck is shuffled at the end.

* `Snapshot.Delivers` — exactly the chosen copies went on top of a zone.
* `delivers_moved`, `Delivers.cons`, `Delivers.shuffle` — what deliveries are made of.
* `delivers_of_discard`, `delivers_of_search`, `delivers_of_addToHand` — the operations that do so;
  `discard_spec`, `search_spec`, `addToHand_spec` say what they leave alone.
-/

namespace SoloDuel.Snapshot

/-- Exactly the chosen copies went face-up on top of a zone, in the order they were chosen in, and
nothing else happened but that the deck may have been shuffled. -/
structure Delivers (chosen : List InstanceId) (target : ZoneName) (shuffled : Prop)
    (s t : Snapshot) : Prop where
  /-- The chosen copies are on top of what else was in the zone. -/
  top : ∃ cards : List CardInstance, cards.map (·.id) = chosen ∧
    (∀ card ∈ cards, s.find? card.id = some card) ∧
    t.zone target =
      (s.zone target).filter (·.id ∉ chosen) ++ cards.map (·.movedTo target .faceUp)
  /-- The other zones hold what they held without the chosen copies. -/
  left : ∀ name, name ≠ target → (t.zone name).Perm ((s.zone name).filter (·.id ∉ chosen))
  /-- They do so in the same order, but for a deck that was shuffled. -/
  ordered : ∀ name, name ≠ target → (shuffled → name ≠ .deck) →
    t.zone name = (s.zone name).filter (·.id ∉ chosen)
  arrived : ∀ id ∈ chosen, t.location? id = some target
  others : ∀ id, id ∉ chosen → t.find? id = s.find? id
  rest : t = { s with board := t.board, rng := t.rng }

variable {s t u : Snapshot} {id : InstanceId} {card : CardInstance} {origin target zone : ZoneName}
  {chosen : List InstanceId} {shuffled : Prop}

/-- Moving one copy delivers it. -/
theorem delivers_moved (hs : s.board.Sound) (h : s.find? id = some card) (target : ZoneName) :
    Delivers [id] target False s (s.moved card target .faceUp) := by
  obtain ⟨rfl, hcard⟩ := mem_zone_of_find? hs h
  have hzone := s.board.zone_relocated card target .faceUp
  have hordered : ∀ name, name ≠ target → (s.moved card target .faceUp).zone name =
      (s.zone name).filter (·.id ∉ [card.id]) := by
    intro name hname
    rw [zone, moved, hzone, if_neg hname]
    simp [zone]
  refine ⟨⟨[card], rfl, by simpa using h, ?_⟩, fun name hname => ?_, fun name hname _ => ?_,
    ?_, fun other hother => ?_, rfl⟩
  · rw [zone, moved, hzone, if_pos rfl]
    simp [zone]
  · rw [hordered name hname]
  · exact hordered name hname
  · intro other hother
    obtain rfl := List.mem_singleton.mp hother
    rw [location?, find?_moved hs h]
    rfl
  · rw [List.mem_singleton] at hother
    rw [find?, moved, Board.find?_relocated hs.distinct hcard, if_neg hother]
    rfl

theorem Delivers.nil (target : ZoneName) (s : Snapshot) : Delivers [] target False s s where
  top := ⟨[], rfl, by simp, by simp⟩
  left := fun name _ => by simp
  ordered := fun name _ _ => by simp
  arrived := by simp
  others := fun _ _ => rfl
  rest := rfl

/-- A copy and then others are delivered one after another. -/
theorem Delivers.cons (h₁ : Delivers [id] target False s t) (h₂ : Delivers chosen target False t u)
    (hid : id ∉ chosen) : Delivers (id :: chosen) target False s u := by
  have hfilter : ∀ cards : List CardInstance,
      (cards.filter (·.id ∉ [id])).filter (·.id ∉ chosen) =
        cards.filter (·.id ∉ id :: chosen) := by
    intro cards
    rw [List.filter_filter]
    refine List.filter_congr fun c _ => ?_
    simp [Bool.and_comm]
  have hordered : ∀ name, name ≠ target →
      u.zone name = (s.zone name).filter (·.id ∉ id :: chosen) := by
    intro name hname
    rw [h₂.ordered name hname nofun, h₁.ordered name hname nofun, hfilter]
  refine ⟨?_, fun name hname => ?_, fun name hname _ => hordered name hname, fun other hother => ?_,
    fun other hother => ?_, ?_⟩
  · obtain ⟨first, hfirst, hfound, htop⟩ := h₁.top
    obtain ⟨later, hlater, hlaterfound, hlatertop⟩ := h₂.top
    obtain ⟨c, rfl, hc⟩ := List.map_eq_singleton_iff.mp hfirst
    refine ⟨c :: later, by simp [hc, hlater], ?_, ?_⟩
    · rw [List.forall_mem_cons]
      refine ⟨hfound c List.mem_cons_self, fun x hx => ?_⟩
      -- what is delivered later was not touched before
      have hne : x.id ∉ [id] := by
        rw [List.mem_singleton]
        rintro rfl
        exact hid (hlater ▸ List.mem_map_of_mem hx)
      rw [← h₁.others x.id hne]
      exact hlaterfound x hx
    · have hkept : (c.movedTo target .faceUp).id ∉ chosen := by
        dsimp only [CardInstance.movedTo]
        rw [hc]
        exact hid
      rw [hlatertop, htop, List.filter_append, hfilter, List.map_singleton,
        List.filter_cons_of_pos (by simpa using hkept), List.filter_nil, List.append_assoc]
      rfl
  · rw [hordered name hname]
  · by_cases hlater : other ∈ chosen
    · exact h₂.arrived other hlater
    · obtain rfl : other = id := (List.mem_cons.mp hother).resolve_right hlater
      rw [location?, h₂.others other hlater]
      exact h₁.arrived other List.mem_cons_self
  · rw [List.mem_cons, not_or] at hother
    rw [h₂.others other hother.2, h₁.others other (by simpa using hother.1)]
  · rw [h₂.rest, h₁.rest]

/-- After a delivery off the deck the deck may be shuffled. -/
theorem Delivers.shuffle (h : Delivers chosen target False s t) (ht : t.board.Sound)
    (htarget : target ≠ .deck) : Delivers chosen target True s t.shuffle := by
  have hkept : ∀ name, name ≠ .deck → t.shuffle.zone name = t.zone name := by
    intro name hname
    cases name with
    | deck => exact absurd rfl hname
    | _ => rfl
  refine ⟨?_, fun name hname => ?_, fun name hname hdeck => ?_, fun other hother => ?_,
    fun other hother => ?_, ?_⟩
  · rw [hkept target htarget]
    exact h.top
  · exact (t.board.shuffleDeck_perm _ name).trans (h.left name hname)
  · rw [hkept name (hdeck trivial)]
    exact h.ordered name hname nofun
  · rw [location?, shuffle_find? ht]
    exact h.arrived other hother
  · rw [shuffle_find? ht]
    exact h.others other hother
  · rw [h.rest]
    rfl

/-- A delivery from a zone leaves the copies outside of it alone. -/
theorem Delivers.keeps (h : Delivers chosen target shuffled s t)
    (horigin : ∀ id ∈ chosen, s.location? id = some origin) : Keeps origin s t := by
  intro id card hfind hne
  have hid : id ∉ chosen := by
    intro hid
    have hlocation := horigin id hid
    rw [location?, hfind, Option.map_some, Option.some.injEq] at hlocation
    exact hne hlocation
  rw [h.others id hid]
  exact hfind

/-- Of copies delivered from one zone to another, exactly the chosen ones change zone. -/
theorem Delivers.location?_ne_iff (h : Delivers chosen target shuffled s t)
    (horigin : ∀ id ∈ chosen, s.location? id = some origin) (hne : origin ≠ target)
    (id : InstanceId) : t.location? id ≠ s.location? id ↔ id ∈ chosen := by
  by_cases hid : id ∈ chosen
  · rw [h.arrived id hid, horigin id hid]
    simp [hid, hne.symm]
  · rw [location?, h.others id hid]
    simp [hid, location?]

/-- Of copies delivered within a zone, none changes zone. -/
theorem Delivers.location?_eq (h : Delivers chosen target shuffled s t)
    (horigin : ∀ id ∈ chosen, s.location? id = some target) (id : InstanceId) :
    t.location? id = s.location? id := by
  by_cases hid : id ∈ chosen
  · rw [h.arrived id hid, horigin id hid]
  · rw [location?, h.others id hid, location?]

/-! ## The operations -/

/-- Different cards in the hand are discarded onto the graveyard in order. -/
theorem delivers_of_discard {ids : List InstanceId} (hs : s.board.Sound) (hids : ids.Nodup)
    (hhand : ∀ id ∈ ids, s.location? id = some .hand) :
    ∃ out, s.discard ids = .ok out ∧ Delivers ids .graveyard False s out.state := by
  suffices hfold : ∃ t, ids.foldlM discardOne s = .ok t ∧ Delivers ids .graveyard False s t by
    obtain ⟨t, hfold, hdelivers⟩ := hfold
    refine ⟨{ state := t, message := s!"discarded {ids.length} card(s)" }, ?_, hdelivers⟩
    rw [discard, hfold]
    rfl
  induction ids generalizing s with
  | nil => exact ⟨s, rfl, .nil _ s⟩
  | cons id rest ih =>
    rw [List.nodup_cons] at hids
    rw [List.forall_mem_cons] at hhand
    obtain ⟨card, hfind, hlocation⟩ := Option.map_eq_some_iff.mp hhand.1
    have hfirst := delivers_moved hs hfind .graveyard
    -- the cards discarded later are still in the hand
    have hrest : ∀ other ∈ rest,
        (s.moved card .graveyard .faceUp).location? other = some .hand := by
      intro other hother
      have hne : other ∉ [id] := by
        rw [List.mem_singleton]
        rintro rfl
        exact hids.1 hother
      rw [location?, hfirst.others other hne]
      exact hhand.2 other hother
    obtain ⟨t, hfold, hlater⟩ := ih (sound_moved hs hfind _ _) hids.2 hrest
    refine ⟨t, ?_, hfirst.cons hlater hids.1⟩
    rw [List.foldlM_cons, discardOne_spec hs hfind hlocation]
    exact hfold

/-- A card in the deck that is searched is delivered to the hand, and the deck shuffled. -/
theorem delivers_of_search (hs : s.board.Sound) (h : s.location? id = some .deck) :
    ∃ out, s.search id = .ok out ∧ Delivers [id] .hand True s out.state := by
  obtain ⟨card, hfind, hlocation⟩ := Option.map_eq_some_iff.mp h
  refine ⟨{ state := (s.moved card .hand .faceUp).shuffle
            message := s!"added {id} from the deck to the hand" }, ?_,
    (delivers_moved hs hfind .hand).shuffle (sound_moved hs hfind _ _) (by decide)⟩
  rw [search, requireIn_eq hfind hlocation, relocate_eq hs hfind rfl]
  rfl

/-- A card in a zone that is added to the hand is delivered there. -/
theorem delivers_of_addToHand (hs : s.board.Sound) (h : s.location? id = some zone) :
    ∃ out, s.addToHand id zone = .ok out ∧ Delivers [id] .hand (zone = .deck) s out.state := by
  by_cases hdeck : zone = .deck
  · rw [addToHand, if_pos hdeck, eq_true hdeck]
    exact delivers_of_search hs (hdeck ▸ h)
  · obtain ⟨card, hfind, hlocation⟩ := Option.map_eq_some_iff.mp h
    rw [eq_false hdeck]
    refine ⟨{ state := s.moved card .hand .faceUp
              message := s!"added {id} from the {zone} to the hand" }, ?_,
      delivers_moved hs hfind .hand⟩
    rw [addToHand, if_neg hdeck, requireIn_eq hfind hlocation, relocate_eq hs hfind rfl]
    rfl

/-! ### What they leave alone -/

/-- Different cards in the hand can be discarded. -/
theorem discard_spec {ids : List InstanceId} (hs : s.board.Sound) (hids : ids.Nodup)
    (hhand : ∀ id ∈ ids, s.location? id = some .hand) :
    ∃ t message, s.discard ids = .ok { state := t, message := message } ∧ t.board.Sound ∧
      Keeps .hand s t := by
  obtain ⟨⟨t, message, events⟩, hout, hdelivers⟩ := delivers_of_discard hs hids hhand
  obtain rfl : events = [] := events_of_discard hout
  have hhandles := handles_of_operation (o := .discard ids) hout
  exact ⟨t, message, hout, hhandles.leads.sound hs, hdelivers.keeps hhand⟩

/-- A card in the deck can be searched. -/
theorem search_spec (hs : s.board.Sound) (h : s.location? id = some .deck) :
    ∃ t message, s.search id = .ok { state := t, message := message } ∧ t.board.Sound ∧
      Keeps .deck s t := by
  obtain ⟨⟨t, message, events⟩, hout, hdelivers⟩ := delivers_of_search hs h
  obtain rfl : events = [] := events_of_search hout
  have hhandles := handles_of_operation (o := .search id) hout
  exact ⟨t, message, hout, hhandles.leads.sound hs, hdelivers.keeps (by simpa using h)⟩

/-- A card can be added to the hand from its zone. -/
theorem addToHand_spec (hs : s.board.Sound) (h : s.location? id = some zone) :
    ∃ t message, s.addToHand id zone = .ok { state := t, message := message } ∧ t.board.Sound ∧
      Keeps zone s t := by
  obtain ⟨⟨t, message, events⟩, hout, hdelivers⟩ := delivers_of_addToHand hs h
  obtain rfl : events = [] := events_of_addToHand hout
  have hhandles := handles_of_operation (o := .addToHand id zone) hout
  exact ⟨t, message, hout, hhandles.leads.sound hs, hdelivers.keeps (by simpa using h)⟩

end SoloDuel.Snapshot
