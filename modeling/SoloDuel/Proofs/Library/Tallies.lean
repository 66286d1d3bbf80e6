import SoloDuel.Proofs.Engine.FieldStates
import SoloDuel.Proofs.Engine.Upholds
import SoloDuel.Proofs.Library.SpellCounters
import SoloDuel.Proofs.Library.Upkeep
/-!
# Who holds counters

In a duel with the library only spell counters are ever placed, and only by the two triggers: on
face-up citadels without a limit, on face-up libraries up to three. They are spent by the effect of
a library and in the place of the destruction of a citadel, and they are gone when the card moves.
No card is turned face-down, so that a card with counters stays face-up.

* `Counter.spells` — the one list of piles that says how many spell counters there are.
* `Library.Tallied` — field states as the library leaves them; `lasting_tallied` says that only
  counting can change that.
* `tallied_of_addCounters`, `tallied_of_removeCounters`, `tallied_of_destroy` — what counts.
* `Library.upholds_tallied`, `Library.tallies_hold` — every snapshot of a duel.
-/

namespace SoloDuel

open Snapshot

/-! ## Piles of spell counters only -/

namespace Counter

variable {kind : CounterKind} {count held : UInt32}

/-- The piles of a card with so many spell counters and no other. -/
def spells (count : UInt32) : List Counter := if count = 0 then [] else [⟨.spell, count⟩]

theorem put_spells : put .spell count (spells held) = spells count := by
  by_cases hheld : held = 0
  · simp [spells, hheld, put]
  · simp [spells, hheld, put]

theorem held_spells : Counter.held .spell (spells count) = count := by
  by_cases hcount : count = 0
  · simp [spells, hcount, Counter.held]
  · simp [spells, hcount, Counter.held]

theorem held_spells_of_ne (h : kind ≠ .spell) : Counter.held kind (spells count) = 0 := by
  by_cases hcount : count = 0
  · simp [spells, hcount, Counter.held]
  · simp [spells, hcount, Counter.held, h.symm]

theorem of_mem_spells {pile : Counter} (h : pile ∈ spells count) :
    pile.kind = .spell ∧ 0 < pile.count := by
  unfold spells at h
  split at h
  · cases h
  · rename_i hcount
    obtain rfl := List.mem_singleton.mp h
    exact ⟨rfl, UInt32.pos_iff_ne_zero.mpr hcount⟩

theorem nodup_kinds_spells (count : UInt32) : ((spells count).map (·.kind)).Nodup := by
  unfold spells
  split
  · exact List.nodup_nil
  · exact List.nodup_singleton _

theorem put_zero_spells (h : kind ≠ .spell) : put kind 0 (spells count) = spells count := by
  by_cases hcount : count = 0
  · simp [spells, hcount, put]
  · simp [spells, hcount, put, h.symm]

end Counter

namespace Library

open Passcode

variable {config : DuelConfig} {s t : Snapshot} {id source : InstanceId} {card : CardId}
  {f : FieldState} {out : Outcome} {effect : CardEffect} {kind : CounterKind}
  {amount count : UInt32} {limit : Option UInt32}

/-- The species that hold counters. -/
def HoldsCounters (card : CardId) : Prop :=
  card = magicalCitadelOfEndymion ∨ card = royalMagicalLibrary

/-- Field state as the library leaves it. -/
structure Tallied (card : CardId) (f : FieldState) : Prop where
  /-- There are spell counters only, in one pile that is not empty. -/
  counters : f.counters = Counter.spells (f.counter .spell)
  /-- A card with counters is one that holds them, and lies face-up. -/
  holder : f.counter .spell ≠ 0 → HoldsCounters card ∧ f.isFaceUp = true
  /-- A library has three counters at most. -/
  bounded : card = royalMagicalLibrary → f.counter .spell ≤ libraryCounters
  /-- No activation is noted twice. -/
  activated : f.activated.Nodup

/-- **All that is done to field state but counting leaves it tallied.** -/
theorem lasting_tallied : FieldState.Lasting Tallied where
  fresh := fun card placement =>
    ⟨rfl, fun hcount => absurd rfl hcount, fun _ => UInt32.zero_le, List.nodup_nil⟩
  placed := fun h => ⟨h.counters, h.holder, h.bounded, h.activated⟩
  faceUp := fun h => ⟨h.counters, fun hcount => ⟨(h.holder hcount).1, rfl⟩, h.bounded, h.activated⟩
  markActivated := by
    intro card f effect h
    unfold FieldState.markActivated
    split
    · exact h
    · rename_i hnew
      refine ⟨h.counters, h.holder, h.bounded, ?_⟩
      have hmem : effect ∉ f.activated := by simpa [FieldState.hasActivated] using hnew
      rw [← List.concat_eq_append]
      exact h.activated.concat hmem
  resetForTurn := fun h => ⟨h.counters, h.holder, h.bounded, List.nodup_nil⟩

/-! ## Counting -/

/-- Another number of spell counters, where there may be so many. -/
theorem Tallied.setCounter (h : Tallied card f)
    (hholder : count ≠ 0 → HoldsCounters card ∧ f.isFaceUp = true)
    (hbounded : card = royalMagicalLibrary → count ≤ libraryCounters) :
    Tallied card (f.setCounter .spell count) := by
  have hcounters : (f.setCounter .spell count).counters = Counter.spells count := by
    rw [FieldState.setCounter, h.counters]
    exact Counter.put_spells
  have hcount : (f.setCounter .spell count).counter .spell = count := by
    rw [FieldState.counter, hcounters]
    exact Counter.held_spells
  refine ⟨?_, ?_, ?_, h.activated⟩
  · rw [hcounters, hcount]
  · rw [hcount]
    exact hholder
  · rw [hcount]
    exact hbounded

/-- Taking counters away. Of other kinds there are none to take. -/
theorem Tallied.spend (h : Tallied card f) (henough : amount ≤ f.counter kind) :
    Tallied card (f.setCounter kind (f.counter kind - amount)) := by
  have hle : f.counter kind - amount ≤ f.counter kind := UInt32.sub_le henough
  by_cases hkind : kind = .spell
  · subst hkind
    refine h.setCounter (fun hleft => h.holder fun hzero => hleft ?_) fun hcard =>
      UInt32.le_trans hle (h.bounded hcard)
    exact UInt32.le_zero_iff.mp (UInt32.le_trans hle (UInt32.le_zero_iff.mpr hzero))
  · have hnone : f.counter kind = 0 := by
      rw [FieldState.counter, h.counters]
      exact Counter.held_spells_of_ne hkind
    have hsame : f.setCounter kind 0 = f := by
      rw [FieldState.setCounter, h.counters, Counter.put_zero_spells hkind, ← h.counters]
    rw [UInt32.le_zero_iff.mp (UInt32.le_trans hle (UInt32.le_zero_iff.mpr hnone)), hsame]
    exact h

/-- The counters that a card is asked for are those of its field state. -/
theorem counter_eq_of_counterOn {held : UInt32} (h : s.counterOn id kind = .ok held)
    {c : CardInstance} (hfind : s.find? id = some c) (hfield : c.field = some f) :
    held = f.counter kind := by
  obtain ⟨-, -, -, rfl⟩ := of_counterOn h
  rw [piles_of_find? hfind, CardInstance.piles, hfield]
  rfl

theorem tallied_of_removeCounters (h : s.EachField Tallied)
    (hremove : s.removeCounters id kind amount = .ok out) : out.state.EachField Tallied := by
  obtain ⟨held, hheld, hrest⟩ := bind_eq_ok.mp hremove
  split at hrest
  · cases hrest
  · rename_i henough
    cases hrest
    refine h.modifyField id fun c f hfind hfield hf => ?_
    obtain rfl := counter_eq_of_counterOn hheld hfind hfield
    exact hf.spend (UInt32.not_lt.mp henough)

/-- What the triggers place a counter on: a face-up citadel, or a face-up library with a limit. -/
def Placeable (s : Snapshot) (id : InstanceId) (limit : Option UInt32) : Prop :=
  limit = none ∧ id ∈ s.faceUp magicalCitadelOfEndymion ∨
    limit = some libraryCounters ∧ id ∈ s.faceUp royalMagicalLibrary

theorem tallied_of_addCounters (h : s.EachField Tallied) (hplace : Placeable s id limit)
    (hadd : s.addCounters id .spell 1 limit = .ok out) : out.state.EachField Tallied := by
  obtain ⟨held, -, hout⟩ := bind_eq_ok.mp hadd
  cases hout
  refine h.modifyField id fun c f hfind hfield hf => ?_
  have hfaceUp : ∀ card, id ∈ s.faceUp card → c.cardId = card ∧ f.isFaceUp = true := by
    intro card hmem
    obtain ⟨other, hother, hcard, hface⟩ := (mem_faceUp_iff h.sound).mp hmem
    obtain rfl : c = other := Option.some.inj (hfind.symm.trans hother)
    rw [CardInstance.isFaceUp, hfield] at hface
    exact ⟨hcard, hface⟩
  rcases hplace with ⟨rfl, hcitadel⟩ | ⟨rfl, hlibrary⟩
  · obtain ⟨hcard, hface⟩ := hfaceUp _ hcitadel
    refine hf.setCounter (fun _ => ⟨.inl hcard, hface⟩) fun hother => ?_
    rw [hcard] at hother
    exact absurd hother (by decide)
  · obtain ⟨hcard, hface⟩ := hfaceUp _ hlibrary
    refine hf.setCounter (fun _ => ⟨.inr hcard, hface⟩) fun _ => ?_
    rw [UInt32.le_iff_toNat_le, Counter.toNat_atMost]
    exact Nat.min_le_right _ _

/-- A card that is given counters stays what and as it is. -/
theorem mem_faceUp_of_addCounters (hs : s.board.Sound)
    (hadd : s.addCounters id kind amount limit = .ok out) {other : InstanceId}
    (h : other ∈ s.faceUp card) : other ∈ out.state.faceUp card := by
  obtain ⟨held, -, hout⟩ := bind_eq_ok.mp hadd
  cases hout
  have hsound : (s.withCounter id kind (atMost limit (raise held amount))).state.board.Sound :=
    sound_modifyField hs id _
  obtain ⟨c, hfind, hcard, hface⟩ := (mem_faceUp_iff hs).mp h
  refine (mem_faceUp_iff hsound).mpr ?_
  rw [withCounter, find?_modifyField hs.distinct, hfind]
  split
  · have hkept := CardInstance.isFaceUp_mapField
      (f := (·.setCounter kind (atMost limit (raise held amount)))) (fun _ => rfl) c
    exact ⟨_, rfl, hcard, hkept.trans hface⟩
  · exact ⟨c, rfl, hcard, hface⟩

/-! ## Destruction -/

theorem tallied_of_destroy (h : s.EachField Tallied)
    (hdestroy : (engine config).book.destroy s id = .ok out) : out.state.EachField Tallied := by
  cases hfind : s.find? id with
  | none =>
    rw [RuleBook.destroy, hfind] at hdestroy
    cases hdestroy
  | some c =>
    cases hfield : c.isOnField with
    | false =>
      simp only [RuleBook.destroy, hfind, hfield] at hdestroy
      cases hdestroy
    | true =>
      rw [destroy_eq config h.sound hfind hfield] at hdestroy
      split at hdestroy
      · obtain ⟨removed, hremove, hout⟩ := bind_eq_ok.mp hdestroy
        cases hout
        have hremoved : removed.state.EachField Tallied := tallied_of_removeCounters h hremove
        exact hremoved
      · cases hdestroy
        exact h.moved lasting_tallied hfind .graveyard .faceUp

/-! ## Activations -/

/-- The triggers place counters on cards that hold them. -/
theorem exists_placeable_of_mem_collect {event : Event} {step : Step}
    (h : step ∈ (engine config).book.collect s event) :
    ∃ id limit, step = .addCounters id .spell 1 limit ∧ Placeable s id limit := by
  have hc := (Engine.filled_library (fun _ => False) config).stocked.countsSpells
  cases event with
  | spellActivated card source =>
    rw [collect_spellActivated] at h
    rcases List.mem_append.mp h with h | h
    · obtain ⟨id, hid, rfl⟩ := List.mem_map.mp h
      exact ⟨id, none, rfl, .inl ⟨rfl, (List.mem_filter.mp hid).1⟩⟩
    · obtain ⟨id, hid, rfl⟩ := List.mem_map.mp h
      exact ⟨id, some libraryCounters, rfl, .inr ⟨rfl, (List.mem_filter.mp hid).1⟩⟩
  | _ =>
    rw [hc.quiet s _ (by rintro ⟨⟩)] at h
    cases h

/-- What an effect of the library does. -/
theorem tallied_of_resolution (heffect : effect ∈ effects) {step : Step}
    (hstep : step ∈ effect.resolutionSteps s source) {chosen : List InstanceId}
    (ht : t.EachField Tallied) (hrun : step.run t chosen = .ok out) :
    out.state.EachField Tallied := by
  obtain ⟨instructions, hperforms, hfield⟩ := exists_performs heffect
  rw [CardEffect.resolutionSteps_eq, hperforms s source] at hstep
  rcases List.mem_append.mp hstep with hbody | hdeparture
  · obtain ⟨i, hi, rfl⟩ := List.mem_map.mp hbody
    exact ht.instruction lasting_tallied (hfield i hi).2 (tallied_of_removeCounters ht) hrun
  · split at hdeparture
    · obtain rfl := List.mem_singleton.mp hdeparture
      exact ht.moveCard lasting_tallied hrun
    · cases hdeparture

/-- **Every step of an activation in the library leaves the field states tallied.** -/
theorem throughout_tallied (hs : s.EachField Tallied) (heffect : effect ∈ effects)
    (hvalid : effect.validate (engine config).book s source = .ok ()) :
    Throughout (engine config).book.collect (fun _ out => out.state.EachField Tallied) s
      (effect.steps s source) := by
  have hc := (Engine.filled_library (fun _ => False) config).stocked.countsSpells
  obtain ⟨instructions, hperforms, -⟩ := exists_performs heffect
  obtain ⟨⟨⟩, htemplate, -⟩ := bind_eq_ok.mp hvalid
  obtain ⟨card, u, message, hfind, hactivate, -⟩ :=
    ActivationTemplate.exists_activated_of_validate hs.sound htemplate
  have hu : u.EachField Tallied := hs.activate lasting_tallied hactivate
  refine .activation hfind hactivate hu (fun _ => hu) hu ?_
  -- The triggers chose where to place counters before the first of them was placed.
  refine .keeping (J := fun t => t.EachField Tallied ∧
    ∀ card id, id ∈ u.faceUp card → id ∈ t.faceUp card) ?_ ?_ ⟨hu, fun _ _ h => h⟩ ?_
  · rintro step hstep t chosen out ⟨ht, hkept⟩ hrun
    obtain ⟨id, limit, rfl, hplace⟩ := exists_placeable_of_mem_collect hstep
    have hnow : Placeable t id limit :=
      hplace.imp (And.imp_right (hkept _ id)) (And.imp_right (hkept _ id))
    have hadded := tallied_of_addCounters ht hnow hrun
    exact ⟨hadded, hadded, fun card other hother =>
      mem_faceUp_of_addCounters ht.sound hrun (hkept card other hother)⟩
  · intro step hstep
    obtain ⟨id, limit, rfl, -⟩ := exists_placeable_of_mem_collect hstep
    exact (Step.Prebuilt.addCounters id .spell 1 limit).unheard hc
  · rintro t ⟨ht, -⟩
    refine .of_keeping (J := (·.EachField Tallied)) (fun step hstep v chosen out hv hrun => ?_)
      (fun step hstep =>
        (CardEffect.resolutionSteps_prebuilt hperforms.prebuilt step hstep).unheard hc) ht
    have hresolved := tallied_of_resolution heffect hstep hv hrun
    exact ⟨hresolved, hresolved⟩

/-! ## The whole duel -/

theorem upholds_tallied (config : DuelConfig) :
    (engine config).Upholds (·.EachField Tallied) fun _ _ out => out.state.EachField Tallied where
  command := fun hs hperform => hs.command lasting_tallied tallied_of_destroy hperform
  activate := fun hs hready => by
    obtain ⟨effect, hof, hvalid, rfl⟩ := Engine.activate_eq_ready_iff.mp hready
    exact Sequencer.guarded_new (throughout_tallied hs (mem_effects_of_effectOf hof) hvalid)
  outcome := id

/-- **Who holds counters in a duel.** Whatever commands and activations have been carried out since
the opening, and whatever was chosen: only citadels and libraries that lie face-up on the field have
counters; these are spell counters in one pile, which is not empty; a library has three of them at
most; and no field state notes an activation twice. -/
theorem tallies_hold (config : DuelConfig) {deck : List CardId} {history : List Entry} {m : Moment}
    (hopening : (engine config).newGame deck = .ok s) (h : (engine config).Run s history m) :
    ∀ name, ∀ c ∈ m.state.zone name, ∀ f, c.field = some f →
      (f.counters ≠ [] → name.isOnField = true ∧ c.isFaceUp = true ∧
        (c.cardId = magicalCitadelOfEndymion ∨ c.cardId = royalMagicalLibrary)) ∧
      (∀ pile ∈ f.counters, pile.kind = .spell ∧ 0 < pile.count) ∧
      (f.counters.map (·.kind)).Nodup ∧
      (c.cardId = royalMagicalLibrary → f.counter .spell ≤ 3) ∧
      f.activated.Nodup := by
  intro name c hc f hfield
  have hstocked := (Engine.filled_library (fun _ => False) config).stocked
  have hopened : s.EachField Tallied := Engine.eachField_of_newGame hopening
  have hstate := (h.upholds hstocked (upholds_tallied config) hopened).state
  have hf : Tallied c.cardId f := hstate.fields (find?_of_mem hstate.sound hc) hfield
  have hname : name.isOnField = true := by
    rw [← hstate.sound.fielded name c hc, CardInstance.isOnField, hfield]
    rfl
  refine ⟨fun hcounters => ?_, fun pile hpile => ?_, ?_, hf.bounded, hf.activated⟩
  · have hcount : f.counter .spell ≠ 0 := by
      intro hzero
      rw [hf.counters, hzero] at hcounters
      exact hcounters rfl
    obtain ⟨hholds, hface⟩ := hf.holder hcount
    refine ⟨hname, ?_, hholds⟩
    rw [CardInstance.isFaceUp, hfield]
    exact hface
  · rw [hf.counters] at hpile
    exact Counter.of_mem_spells hpile
  · rw [hf.counters]
    exact Counter.nodup_kinds_spells _

/-- Two cards in hand, the library and Pot of Greed. -/
def openingPair : DuelConfig := { openingHand := 2, shuffleOnStart := false }

def libraryDeck : List CardId := [potOfGreed, potOfGreed, potOfGreed, royalMagicalLibrary]

/-- A library that is summoned before Pot of Greed is activated has a spell counter afterwards. -/
theorem tallies_hold_with_one_counter :
    ∃ s history m, (engine openingPair).newGame libraryDeck = .ok s ∧
      (engine openingPair).Run s history m ∧
      ∃ c ∈ m.state.zone .monsterZone, ∃ f, c.field = some f ∧ f.counters = [⟨.spell, 1⟩] ∧
        c.isFaceUp = true := by
  have hrun : ((engine openingPair).readyAfter libraryDeck
      [.advanceTo .main, .normalSummon (Board.entryId 3)] (Board.entryId 2)).bind (fun q =>
        (q.play 20 [.start]).map fun r => (r.1.state.zone .monsterZone).any fun c =>
          c.field.map (·.counters) = some [⟨.spell, 1⟩]) = some true := by
    decide +kernel
  obtain ⟨q, hready, hrun⟩ := Option.bind_eq_some_iff.mp hrun
  obtain ⟨⟨q', log⟩, hplay, hcounted⟩ := Option.map_eq_some_iff.mp hrun
  obtain ⟨c, hc, hcounters⟩ := List.any_eq_true.mp hcounted
  obtain ⟨f, hfield, hone⟩ := Option.map_eq_some_iff.mp (of_decide_eq_true hcounters)
  obtain ⟨s, history, hopening, hhistory⟩ := Engine.exists_run_of_readyAfter hready
  obtain ⟨⟨more, hmore⟩, -⟩ := hhistory.play hplay
  obtain ⟨hholder, -⟩ := tallies_hold openingPair hopening hmore .monsterZone c hc f hfield
  have hface := (hholder (by simp [hone])).2.1
  exact ⟨s, _, _, hopening, hmore, c, hc, f, hfield, hone, hface⟩

end Library

end SoloDuel
