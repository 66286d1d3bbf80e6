import SoloDuel.Proofs.Activation.Resolution
import SoloDuel.Proofs.Engine.Reachable
import SoloDuel.Proofs.Snapshot.FaceUp
/-!
# The built-in effects run to their end

The requirement of every built-in effect is enough for its resolution: an activation that is allowed
on a sound snapshot runs to its end, whatever is chosen and however many counters triggers place.

* `Engine.Stocked.countsSpells` — the triggers of the library answer with spell counters.
* `CardEffect.Resolved` — where the source is once an effect has resolved.
* `exists_completes_of_validate` — card by card, what is required is enough.
* `play_of_activate` — an activation in the library never fails.
-/

namespace SoloDuel

open Snapshot

/-! ## The triggers -/

namespace Library

variable {s : Snapshot}

theorem spellCounters_quiet (card : CardId) (limit : Option UInt32) (s : Snapshot) {event : Event}
    (h : event.kind ≠ .spellActivated) : spellCounters card limit s event = [] := by
  cases event with
  | spellActivated => exact absurd rfl h
  | _ => rfl

theorem exists_of_mem_spellCounters (hs : s.board.Sound) {card : CardId} {limit : Option UInt32}
    {event : Event} {step : Step} (h : step ∈ spellCounters card limit s event) :
    ∃ id limit c, step = .addCounters id .spell 1 limit ∧ s.find? id = some c ∧
      c.isOnField = true := by
  unfold spellCounters at h
  split at h
  · obtain ⟨id, hid, rfl⟩ := List.mem_map.mp h
    obtain ⟨c, hfind, -, hface⟩ := (mem_faceUp_iff hs).mp (List.mem_filter.mp hid).1
    exact ⟨id, limit, c, rfl, hfind, CardInstance.isOnField_of_isFaceUp hface⟩
  · cases h

end Library

/-- The triggers of an engine with the library answer with spell counters. -/
theorem Engine.Stocked.countsSpells {scripts : Script → Prop} {e : Engine} (h : e.Stocked scripts) :
    e.book.collect.CountsSpells where
  quiet := by
    intro s event hkind
    refine List.eq_nil_iff_forall_not_mem.mpr fun step hstep => ?_
    obtain ⟨card, limit, hmem⟩ := h.exists_of_mem_collect hstep
    rw [Library.spellCounters_quiet card limit s hkind] at hmem
    exact List.not_mem_nil hmem
  counters := by
    intro s event hs step hstep
    obtain ⟨card, limit, hmem⟩ := h.exists_of_mem_collect hstep
    exact Library.exists_of_mem_spellCounters hs hmem

/-! ## Where the source ends up -/

/-- Where the source of an effect is once the effect has resolved: a self-contained card in the
graveyard, a card that stays face-up in its zone, the source of an ignition effect where it was. -/
def CardEffect.Resolved (effect : CardEffect) (s : Snapshot) (source : InstanceId) (t : Snapshot) :
    Prop :=
  match effect.template with
  | .normalSpell | .quickPlaySpell | .normalTrap => t.board.holds .graveyard source = true
  | .continuousSpell => t.board.holds .spellTrapZone source = true ∧
      ∃ c, t.find? source = some c ∧ c.isFaceUp = true
  | .fieldSpell => t.board.holds .fieldZone source = true ∧
      ∃ c, t.find? source = some c ∧ c.isFaceUp = true
  | .ignition => ∃ zone, s.board.holds zone source = true ∧ t.board.holds zone source = true

namespace Library

variable {collector : Collector} {s t : Snapshot} {source : InstanceId} {zone : ZoneName}

/-! ## What is required is enough -/

theorem requireInZone_eq_ok_iff {filter : CardFilter} :
    requireInZone s zone filter = .ok () ↔ (s.zone zone).any filter.accepts = true := by
  unfold requireInZone
  split_ifs with h
  · simp [h]
  · simp [h]

/-- The cards in hand once the source is in play. -/
theorem count_hand_of_entered (h : Entered s source zone t) :
    t.count .hand = otherHandCards s source := by
  have hlength : t.count .hand = (t.zone .hand).length := rfl
  rw [hlength, h.hand, otherHandCards, List.countP_eq_length_filter]

/-- The cards required in the deck are there when the source is in play. -/
theorem le_count_deck_of_entered {count : Nat} (h : Entered s source zone t)
    (hdeck : requireDeck s count = .ok ()) : count ≤ t.count .deck := by
  have hlength : t.count .deck = s.count .deck := congrArg List.length h.deck
  rw [hlength]
  simpa [requireDeck] using hdeck

/-- What is left of a self-contained card when its effect has been done. -/
theorem completes_departure {effect : CardEffect} {n : Nat}
    (hself : effect.template.isSelfContained = true) (hin : InPlay source zone t) :
    Completes collector (effect.Resolved s source) n 2 t [.sendToGraveyard source] := by
  refine Completes.sendToGraveyard hin fun u hu => ?_
  unfold CardEffect.Resolved
  cases htemplate : effect.template <;> rw [htemplate] at hself
  all_goals first | exact hu | cases hself

/-- A card that draws as many cards as it requires. -/
theorem completes_draw {effect : CardEffect} {count : UInt64} (hc : collector.CountsSpells)
    (hself : effect.template.isSelfContained = true)
    (hdeck : requireDeck s count.toNat = .ok ()) (ht : Entered s source zone t) :
    Completes collector (effect.Resolved s source) 2 3 t
      [.draw count, .sendToGraveyard source] := by
  exact Completes.draw hc ht.toInPlay (le_count_deck_of_entered ht hdeck) fun u hu _ =>
    completes_departure hself hu

/-- A card that searches for a card as it requires one. -/
theorem completes_search {effect : CardEffect} {filter : CardFilter}
    (hself : effect.template.isSelfContained = true)
    (hdeck : requireInZone s .deck filter = .ok ()) (ht : Entered s source zone t) :
    Completes collector (effect.Resolved s source) 2 3 t
      [.search filter, .sendToGraveyard source] := by
  have hsome := requireInZone_eq_ok_iff.mp hdeck
  rw [← ht.deck] at hsome
  exact Completes.search ht.toInPlay hsome fun u hu => completes_departure hself hu

theorem completes_gracefulCharity (hc : collector.CountsSpells)
    (hdeck : requireDeck s 3 = .ok ()) (ht : Entered s source zone t) :
    Completes collector (gracefulCharityEffect.Resolved s source) 2 4 t
      [.draw 3, .discard 2, .sendToGraveyard source] := by
  refine Completes.draw hc ht.toInPlay (le_count_deck_of_entered ht hdeck) fun u hu hhand => ?_
  have htwo : (2 : UInt64).toNat ≤ u.count .hand := by
    rw [hhand]
    exact Nat.le_trans (by decide) (Nat.le_add_left _ _)
  exact Completes.discard hu htwo fun v hv _ => completes_departure rfl hv

theorem completes_upstartGoblin (hc : collector.CountsSpells)
    (hdeck : requireDeck s 1 = .ok ()) (ht : Entered s source zone t) :
    Completes collector (upstartGoblinEffect.Resolved s source) 2 4 t
      [.draw 1, .gainLife .opponent 1000, .sendToGraveyard source] := by
  exact Completes.draw hc ht.toInPlay (le_count_deck_of_entered ht hdeck) fun u hu _ =>
    Completes.gainLife hc hu fun v hv => completes_departure rfl hv

theorem completes_cardOfDemise (hc : collector.CountsSpells)
    (hdeck : requireDeck s (3 - otherHandCards s source) = .ok ()) (ht : Entered s source zone t) :
    Completes collector (cardOfDemiseEffect.Resolved s source) 2 3 t
      [.drawUntil 3, .sendToGraveyard source] := by
  have hcount := le_count_deck_of_entered ht hdeck
  rw [← count_hand_of_entered ht] at hcount
  exact Completes.drawUntil hc ht.toInPlay hcount fun u hu => completes_departure rfl hu

theorem completes_stoneExcavation (hvalid : stoneExcavationRequirement s source = .ok ())
    (ht : Entered s source zone t) :
    Completes collector (magicalStoneExcavationEffect.Resolved s source) 2 4 t
      [.discard 2, .addToHand .graveyard anySpell, .sendToGraveyard source] := by
  unfold stoneExcavationRequirement at hvalid
  split_ifs at hvalid with hhand
  have hsome := requireInZone_eq_ok_iff.mp hvalid
  rw [← count_hand_of_entered ht] at hhand
  rw [← ht.graveyard] at hsome
  refine Completes.discard ht.toInPlay (Nat.le_of_not_lt hhand) fun u hu hkeeps => ?_
  -- The spell that was in the graveyard before the discards is still there.
  obtain ⟨card, hcard, haccepts⟩ := List.any_eq_true.mp hsome
  have hlocation : card.location = .graveyard := ht.sound.placed .graveyard card hcard
  have hfind := hkeeps card.id card (find?_of_mem ht.sound hcard) (by rw [hlocation]; decide)
  obtain ⟨-, hmem⟩ := mem_zone_of_find? hu.sound hfind
  rw [hlocation] at hmem
  exact Completes.addToHand hu rfl (List.any_eq_true.mpr ⟨card, hmem, haccepts⟩)
    fun v hv => completes_departure rfl hv

theorem completes_royalMagicalLibrary (hc : collector.CountsSpells)
    (hvalid : libraryRequirement s source = .ok ()) {card : CardInstance}
    (hfind : s.find? source = some card) (hs : s.board.Sound)
    (ht : InPlay source card.location t) (hdeck : t.zone .deck = s.zone .deck)
    (hcounters : ∃ c, t.find? source = some c ∧ c.isOnField = true ∧
      ∀ kind, c.counter kind = card.counter kind) :
    Completes collector (royalMagicalLibraryEffect.Resolved s source) 2 3 t
      [.removeCounters source .spell libraryCounters, .draw 1] := by
  obtain ⟨c, hc', hfield, hcounter⟩ := hcounters
  unfold libraryRequirement at hvalid
  simp only [hfind] at hvalid
  split_ifs at hvalid with hheld hempty
  rw [← hcounter] at hheld
  obtain ⟨u, message, hremove, htouched⟩ := removeCounters_spec ht.sound hc' hfield hheld
  refine Completes.quietly rfl hremove rfl ?_
  have hu := ht.retouched htouched
  have hcount : (1 : UInt64).toNat ≤ u.count .deck := by
    have heq : u.zone .deck = s.zone .deck := (htouched.zone_eq ht.sound rfl).trans hdeck
    have hlength : u.count .deck = s.count .deck := congrArg List.length heq
    rw [hlength]
    exact Nat.pos_of_ne_zero hempty
  refine Completes.draw hc hu hcount fun v hv _ => .done ⟨card.location, ?_, hv.holds⟩
  obtain ⟨hid, hmem⟩ := mem_zone_of_find? hs hfind
  exact List.any_eq_true.mpr ⟨card, hmem, by simpa using hid⟩

/-- A card that stays on the field and does nothing. -/
theorem completes_fieldSpell {effect : CardEffect} (htemplate : effect.template = .fieldSpell)
    (ht : Entered s source .fieldZone t) :
    Completes collector (effect.Resolved s source) 2 1 t [] := by
  obtain ⟨c, hfind, -, hface⟩ := ht.card
  refine .done ?_
  rw [CardEffect.Resolved, htemplate]
  exact ⟨ht.holds, c, hfind, hface⟩

theorem completes_toonWorld (ht : Entered s source .spellTrapZone t) :
    Completes collector ((CardEffect.new Passcode.toonWorld .continuousSpell).Resolved s source)
      2 1 t [] := by
  obtain ⟨c, hfind, -, hface⟩ := ht.card
  exact .done ⟨ht.holds, c, hfind, hface⟩

/-- The script requires a card in the deck, whatever else it requires. -/
theorem requireDeck_of_intoTheVoid
    (h : intoTheVoidScript.conditions.forM (fun c => ConditionCheck.ofKind c.kind c s source) =
      .ok ()) : requireDeck s 1 = .ok () := by
  obtain ⟨⟨⟩, -, h⟩ := bind_eq_ok.mp h
  obtain ⟨⟨⟩, hdeck, -⟩ := bind_eq_ok.mp h
  exact hdeck

/-- **What a built-in effect requires is enough for it to run to its end.** -/
theorem exists_completes_of_validate {effect : CardEffect} {book : RuleBook}
    (hc : collector.CountsSpells) (heffect : effect ∈ effects) (hs : s.board.Sound)
    (hvalid : effect.validate book s source = .ok ()) :
    ∃ m, Completes collector (effect.Resolved s source) 2 m s (effect.steps s source) := by
  obtain ⟨⟨⟩, htemplate, hrequirement⟩ := bind_eq_ok.mp hvalid
  simp only [effects, spellEffects, List.cons_append, List.nil_append, List.mem_cons,
    List.not_mem_nil, or_false] at heffect
  rcases heffect with
    rfl | rfl | rfl | rfl | rfl | rfl | rfl | rfl | rfl | rfl | rfl | rfl | rfl | rfl
  · exact Completes.enter hc hs htemplate rfl fun t => completes_draw hc rfl hrequirement
  · exact Completes.enter hc hs htemplate rfl fun t => completes_gracefulCharity hc hrequirement
  · exact Completes.enter hc hs htemplate rfl fun t => completes_upstartGoblin hc hrequirement
  · exact Completes.enter hc hs htemplate rfl fun t => completes_cardOfDemise hc hrequirement
  · exact Completes.enter hc hs htemplate rfl fun t => completes_search rfl hrequirement
  · exact Completes.enter hc hs htemplate rfl fun t => completes_search rfl hrequirement
  · exact Completes.enter hc hs htemplate rfl fun t => completes_stoneExcavation hrequirement
  · exact Completes.enter hc hs htemplate rfl fun t => completes_draw hc rfl hrequirement
  · exact Completes.enter hc hs htemplate rfl fun t => completes_fieldSpell rfl
  · exact Completes.enter hc hs htemplate rfl fun t => completes_fieldSpell rfl
  · exact Completes.enter hc hs htemplate rfl fun t => completes_fieldSpell rfl
  · exact Completes.enter hc hs htemplate rfl fun t => completes_toonWorld
  · exact Completes.enter hc hs htemplate rfl fun t =>
      completes_draw hc rfl (requireDeck_of_intoTheVoid hrequirement)
  · exact Completes.ignite hc hs rfl htemplate fun card hfind t =>
      completes_royalMagicalLibrary hc hrequirement hfind hs

/-- **An activation in the library never fails.** On a snapshot that passes the check, let an effect
be ready. Then the run can be played to its end: given steps enough to visit, whatever it is called
with once it has started, no call reports a failure; it has accepted at most two selections; and it
is complete, with the source where it belongs, or it has accepted fewer than two and waits for
another one, which it can be given. -/
theorem play_of_activate (config : DuelConfig) {category : EffectCategory} {q : Sequencer}
    (hs : s.check = .ok ())
    (h : (engine config).activate s source category = .ok (.ready q)) :
    ∃ effect, (engine config).effectOf s source category = .ok effect ∧
      ∃ enough, ∀ fuel, enough ≤ fuel → ∀ calls, ∃ q' log,
        q.play fuel (.start :: calls) = some (q', log) ∧
        (∀ c a, (c, .ok a) ∈ log → a.isFailed = false) ∧
        ((q'.status = .complete ∧ log.accepted.length ≤ 2 ∧ effect.Resolved s source q'.state) ∨
          (log.accepted.length < 2 ∧ ∃ i request step chosen,
            q'.status = .awaiting i request ∧ q'.steps[q'.cursor]? = some step ∧
              step.validate q'.state chosen = .ok ())) := by
  have hstocked : (engine config).Stocked fun _ => False :=
    Engine.Filled.stocked (.library (.bare config))
  obtain ⟨card, effect, hfind, hget, hvalid, rfl⟩ := Engine.exists_effect_of_activate h
  have heffect : effect ∈ effects := by
    rcases hstocked.effects category effect (Registry.mem_values_of_get hget) with
      heffect | ⟨_, hfalse, -⟩
    · exact heffect
    · exact hfalse.elim
  obtain ⟨m, hcompletes⟩ := exists_completes_of_validate hstocked.countsSpells heffect
    (Board.check_eq_ok_iff.mp hs) hvalid
  refine ⟨effect, ?_, m, fun fuel hfuel calls => ?_⟩
  · simp [Engine.effectOf, hfind, hget, Except.mapError]
  · exact Sequencer.play_of_completes hcompletes hfuel calls

/-- One copy of Graceful Charity on top of five other cards. -/
def charityDeck : List CardId :=
  List.replicate 5 Passcode.potOfGreed ++ [Passcode.gracefulCharity]

/-- Graceful Charity: two of the three cards drawn are discarded. -/
def charityCalls : List SequencerCall :=
  [.start, .provide [Board.entryId 3], .provide [Board.entryId 3, Board.entryId 4]]

/-- Graceful Charity is ready in the first main phase. One discard is no answer, two are. -/
theorem play_of_activate_graceful_charity : ∃ s q,
    (engine Engine.unshuffled).activate s (Board.entryId 5) .activation = .ok (.ready q) ∧
      (q.play 20 charityCalls).map (fun r => (r.1.status, r.2.accepted.length)) =
        some (.complete, 1) ∧
      ∃ effect, (engine Engine.unshuffled).effectOf s (Board.entryId 5) .activation = .ok effect ∧
        ∃ enough, ∀ fuel, enough ≤ fuel → ∀ calls, ∃ q' log,
          q.play fuel (.start :: calls) = some (q', log) ∧
          (∀ c a, (c, .ok a) ∈ log → a.isFailed = false) ∧
          ((q'.status = .complete ∧ log.accepted.length ≤ 2 ∧
              effect.Resolved s (Board.entryId 5) q'.state) ∨
            (log.accepted.length < 2 ∧ ∃ i request step chosen,
              q'.status = .awaiting i request ∧ q'.steps[q'.cursor]? = some step ∧
                step.validate q'.state chosen = .ok ())) := by
  have hrun : ((Engine.firstReady (engine Engine.unshuffled) charityDeck (Board.entryId 5)).map
      fun r => (r.2.play 20 charityCalls).map fun r => (r.1.status, r.2.accepted.length)) =
        some (some (.complete, 1)) := by
    decide +kernel
  obtain ⟨⟨s, q⟩, hready, hplay⟩ := Option.map_eq_some_iff.mp hrun
  obtain ⟨hreachable, hactivate⟩ := Engine.of_firstReady hready
  have hstocked : (engine Engine.unshuffled).Stocked fun _ => False :=
    Engine.Filled.stocked (.library (.bare Engine.unshuffled))
  have hcheck : s.check = .ok () :=
    Board.check_eq_ok_iff.mpr (Engine.sound_of_reachable hstocked hreachable)
  exact ⟨s, q, hactivate, hplay, play_of_activate Engine.unshuffled hcheck hactivate⟩

end Library

end SoloDuel
