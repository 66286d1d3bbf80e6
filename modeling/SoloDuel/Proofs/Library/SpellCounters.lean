import SoloDuel.Proofs.Activation.Activated
import SoloDuel.Proofs.Engine.Sparing
import SoloDuel.Proofs.Library.Completion
import SoloDuel.Proofs.Library.Installed
import SoloDuel.Proofs.Sequencer.Outcomes
import SoloDuel.Proofs.Snapshot.Counters
/-!
# Spell counters

A spell that is activated gives every other face-up citadel a spell counter, and every other face-up
library one up to three. The two triggers answer with steps that come between the activation and
what the effect does; on the whole way no counter is lost and none is placed twice.

* `Library.collect_spellActivated` — what the triggers of the library answer a spell with.
* `Ensures.spellCounters` — what those steps leave on one copy.
* `Library.SpellCounted`, `TrapCounted`, `IgnitionCounted` — the counters before and after.
* `Library.counters_of_completed` — every activation in the library that completes.
-/

namespace SoloDuel

open Snapshot

/-! ## Counting -/

namespace Counter

/-- The piles with one more spell counter, up to a limit. -/
def gainSpell (limit : Option UInt32) (piles : List Counter) : List Counter :=
  put .spell (atMost limit (raise (held .spell piles) 1)) piles

/-- Without a limit one more counter is there, unless there is no larger number. -/
theorem held_gainSpell_none (piles : List Counter) :
    (held .spell (gainSpell none piles)).toNat =
      min ((held .spell piles).toNat + 1) (UInt32.size - 1) := by
  have hraise := toNat_raise (held .spell piles) 1
  have hsize : UInt32.size = 4294967296 := rfl
  have hone : (1 : UInt32).toNat = 1 := rfl
  have hpos : raise (held .spell piles) 1 ≠ 0 := by
    intro hzero
    rw [hzero] at hraise
    have hzero' : (0 : UInt32).toNat = 0 := rfl
    omega
  have hheld : held .spell (gainSpell none piles) = raise (held .spell piles) 1 :=
    held_put_self (.inl hpos)
  rw [hheld]
  exact hraise

/-- The library holds three counters at most. -/
theorem held_gainSpell_library (piles : List Counter) :
    (held .spell (gainSpell (some Library.libraryCounters) piles)).toNat =
      min 3 ((held .spell piles).toNat + 1) := by
  have hraise := toNat_raise (held .spell piles) 1
  have hmost := toNat_atMost Library.libraryCounters (raise (held .spell piles) 1)
  have hthree : Library.libraryCounters.toNat = 3 := rfl
  have hsize : UInt32.size = 4294967296 := rfl
  have hone : (1 : UInt32).toNat = 1 := rfl
  have hpos : atMost (some Library.libraryCounters) (raise (held .spell piles) 1) ≠ 0 := by
    intro hzero
    rw [hzero] at hmost
    have hzero' : (0 : UInt32).toNat = 0 := rfl
    omega
  have hheld : held .spell (gainSpell (some Library.libraryCounters) piles) =
      atMost (some Library.libraryCounters) (raise (held .spell piles) 1) :=
    held_put_self (.inl hpos)
  rw [hheld]
  omega

theorem held_gainSpell_of_ne {kind : CounterKind} (h : kind ≠ .spell) (limit : Option UInt32)
    (piles : List Counter) : held kind (gainSpell limit piles) = held kind piles :=
  held_put_of_ne h

end Counter

/-! ## Face-up copies -/

namespace Snapshot

variable {s t : Snapshot} {id source : InstanceId} {card other : CardId}

/-- The face-up copies of a species, zone by zone. -/
theorem faceUp_eq (s : Snapshot) (card : CardId) :
    s.faceUp card = [ZoneName.monsterZone, .spellTrapZone, .fieldZone].flatMap fun name =>
      ((s.zone name).filter fun c => c.cardId = card ∧ c.isFaceUp).map (·.id) := by
  simp [faceUp, Board.onField, Board.cards, zone, ZoneName.all, ZoneName.isOnField, List.filter_map,
    Function.comp_def]

/-- The other copies that are face-up are so before and after. -/
theorem SameOthers.faceUp_eq (h : SameOthers source s t) (card : CardId) :
    (t.faceUp card).filter (· ≠ source) = (s.faceUp card).filter (· ≠ source) := by
  have hzone : ∀ (u : Snapshot) name,
      (((u.zone name).filter fun c => c.cardId = card ∧ c.isFaceUp).map (·.id)).filter
          (· ≠ source) =
        (((u.zone name).filter (·.id ≠ source)).filter fun c =>
          c.cardId = card ∧ c.isFaceUp).map (·.id) := by
    intro u name
    rw [List.filter_map, List.filter_filter, List.filter_filter]
    simp [Bool.and_comm]
  simp only [Snapshot.faceUp_eq, List.filter_flatMap, hzone, h _]

/-! ## One copy -/

/-- The piles on a copy, on a sound board. -/
structure HasPiles (id : InstanceId) (piles : List Counter) (s : Snapshot) : Prop where
  sound : s.board.Sound
  piles_eq : s.piles id = piles

theorem HasPiles.spares {touched : InstanceId → Prop} {piles : List Counter}
    (h : HasPiles id piles s) (hspares : Spares touched s t) (hid : ¬ touched id) :
    HasPiles id piles t :=
  ⟨hspares.handles.leads.sound h.sound, (hspares.piles_eq h.sound hid).trans h.piles_eq⟩

end Snapshot

/-- A prebuilt step is no matter for triggers that answer spells only. -/
theorem Step.Prebuilt.unheard {collector : Collector} {step : Step} (h : step.Prebuilt)
    (hc : collector.CountsSpells) : step.Unheard collector := by
  intro s chosen out hrun
  rw [List.flatMap_eq_nil_iff]
  intro event hevent
  exact hc.quiet out.state event (h.kind_ne hrun event hevent)

namespace Ensures

variable {collector : Collector} {Q : Snapshot → Prop} {s : Snapshot} {id : InstanceId}
  {piles : List Counter} {rest : List Step}

/-- One spell counter each on different copies: a copy that is among them has one more afterwards,
any other has the counters it had. -/
theorem spellCounters {ids : List InstanceId} {limit : Option UInt32}
    (hc : collector.CountsSpells) (hids : ids.Nodup) (hs : HasPiles id piles s)
    (hrest : ∀ t, HasPiles id (if id ∈ ids then Counter.gainSpell limit piles else piles) t →
      Ensures collector Q t rest) :
    Ensures collector Q s (ids.map (fun other => .addCounters other .spell 1 limit) ++ rest) := by
  induction ids generalizing s piles with
  | nil => exact hrest s (by simpa using hs)
  | cons other ids ih =>
    rw [List.nodup_cons] at hids
    obtain ⟨hother, hids⟩ := hids
    refine quietly ((Step.Prebuilt.addCounters other .spell 1 limit).unheard hc)
      fun chosen out hrun => ?_
    have hspares : Spares (· = other) s out.state := spares_of_addCounters _ rfl hrun
    by_cases hid : id = other
    · -- No later step is about the same copy.
      subst hid
      have hadded : HasPiles id (Counter.gainSpell limit piles) out.state := by
        refine ⟨hspares.handles.leads.sound hs.sound, ?_⟩
        rw [piles_of_addCounters hs.sound hrun, hs.piles_eq]
        rfl
      refine ih hids hadded fun t ht => hrest t ?_
      simpa [hother] using ht
    · refine ih hids (hs.spares hspares hid) fun t ht => hrest t ?_
      simpa [hid] using ht

end Ensures

namespace ActivationTemplate

variable {t : ActivationTemplate} {effect : EffectId} {source : InstanceId}

theorem event_of_isSpell (h : t.isSpell = true) :
    t.event effect source = .spellActivated effect.card source := by
  cases t with
  | normalTrap | ignition => cases h
  | _ => rfl

/-- A trap or an ignition effect is announced as something else than a spell. -/
theorem kind_event_ne (h : t.isSpell = false) :
    (t.event effect source).kind ≠ .spellActivated := by
  cases t with
  | normalTrap | ignition => simp [event, Event.kind]
  | _ => cases h

end ActivationTemplate

/-- Where a trigger that cannot fire would answer nothing, all triggers may be asked. -/
theorem TriggerTable.collect_eq (table : TriggerTable) {s : Snapshot} {event : Event}
    (h : ∀ t : Trigger, t ∈ table.listening event.kind → t.isActive s = false →
      t.fire s event = []) :
    table.collect s event = (table.listening event.kind).flatMap fun t => t.fire s event := by
  rw [collect]
  generalize table.listening event.kind = triggers at h ⊢
  induction triggers with
  | nil => rfl
  | cons t ts ih =>
    rw [List.forall_mem_cons] at h
    cases hactive : t.isActive s with
    | true => simp [hactive, ih h.2]
    | false => simp [hactive, ih h.2, h.1 hactive]

namespace Library

variable {s t u : Snapshot} {id source : InstanceId} {effect : CardEffect} {book : RuleBook}
  {collector : Collector} {piles : List Counter}

/-! ## The triggers -/

theorem spellCounters_eq_nil {card : CardId} (h : s.hasFaceUp card = false)
    (limit : Option UInt32) (event : Event) : spellCounters card limit s event = [] := by
  cases event with
  | spellActivated => simp [spellCounters, faceUp_eq_nil h]
  | _ => rfl

/-- **What the triggers of the library answer a spell with**: a counter for every other face-up
citadel, then one for every other face-up library. -/
theorem collect_spellActivated (config : DuelConfig) (s : Snapshot) (card : CardId)
    (source : InstanceId) :
    (engine config).book.collect s (.spellActivated card source) =
      spellCounters Passcode.magicalCitadelOfEndymion none s (.spellActivated card source) ++
        spellCounters Passcode.royalMagicalLibrary (some libraryCounters) s
          (.spellActivated card source) := by
  have hlistening : TriggerTable.listening (engine config).book.triggers .spellActivated =
      [citadelTrigger, libraryTrigger] := by
    rw [TriggerTable.listening, IndexedRegistry.ofGroup_eq, triggers_values_engine]
    rfl
  have hkind : (Event.spellActivated card source).kind = .spellActivated := rfl
  rw [RuleBook.collect, TriggerTable.collect_eq, hkind, hlistening]
  · simp [citadelTrigger, libraryTrigger]
  · -- A trigger that cannot fire has no card to place a counter on.
    intro t ht hactive
    rw [hkind, hlistening, List.mem_cons, List.mem_singleton] at ht
    rcases ht with rfl | rfl
    · exact spellCounters_eq_nil hactive none (.spellActivated card source)
    · exact spellCounters_eq_nil hactive (some libraryCounters) (.spellActivated card source)

/-! ## Activations -/

/-- What an effect of the library does leaves the piles on every copy but the source alone. -/
theorem ensures_resolution (hc : collector.CountsSpells) (heffect : effect ∈ effects)
    (hid : id ≠ source) (ht : HasPiles id piles t) :
    Ensures collector (HasPiles id piles) t (effect.resolutionSteps s source) := by
  obtain ⟨instructions, hperforms, hfield⟩ := exists_performs heffect
  have hspares : ∀ step ∈ effect.resolutionSteps s source, step.Respects (Spares (· = source)) := by
    refine CardEffect.spares_of_performs hperforms rfl fun i hi htakes => ?_
    rw [(hfield i hi).1] at htakes
    cases htakes
  have hquiet : ∀ step ∈ effect.resolutionSteps s source, step.Unheard collector :=
    fun step hstep => (CardEffect.resolutionSteps_prebuilt hperforms.prebuilt step hstep).unheard hc
  rw [← List.append_nil (effect.resolutionSteps s source)]
  exact Ensures.keeping
    (fun step hstep u chosen out hrun hu => hu.spares (hspares step hstep u chosen out hrun) hid)
    hquiet ht fun u hu => .done hu

/-- An activation that passes its checks: what follows once the source is in play. -/
theorem ensures_of_validate {Q : Snapshot → Prop} (hs : s.board.Sound)
    (hvalid : effect.validate book s source = .ok ())
    (hrest : ∀ u, u.board.Sound → SameOthers source s u → Ensures collector Q u
      (collector u (effect.template.event effect.id source) ++ effect.resolutionSteps s source)) :
    Ensures collector Q s (effect.steps s source) := by
  obtain ⟨⟨⟩, htemplate, -⟩ := bind_eq_ok.mp hvalid
  obtain ⟨card, u, message, hfind, hactivate, hu⟩ :=
    ActivationTemplate.exists_activated_of_validate hs htemplate
  exact .activation hfind hactivate (hrest u hu.sound hu.others)

/-- The piles on a copy once the triggers have answered a spell. -/
def answered (s : Snapshot) (id : InstanceId) : List Counter :=
  let piles :=
    if id ∈ s.faceUp Passcode.magicalCitadelOfEndymion then Counter.gainSpell none (s.piles id)
    else s.piles id
  if id ∈ s.faceUp Passcode.royalMagicalLibrary then
    Counter.gainSpell (some libraryCounters) piles
  else piles

/-- A spell in the library: every other copy has the counters that the triggers leave it. -/
theorem ensures_answered (config : DuelConfig) (hs : s.board.Sound) (heffect : effect ∈ effects)
    (hvalid : effect.validate book s source = .ok ()) (hspell : effect.template.isSpell = true)
    (hid : id ≠ source) :
    Ensures (engine config).book.collect (HasPiles id (answered s id)) s
      (effect.steps s source) := by
  have hc : (engine config).book.collect.CountsSpells :=
    (Engine.filled_library (fun _ => False) config).stocked.countsSpells
  refine ensures_of_validate hs hvalid fun u hu hothers => ?_
  have hpiles : HasPiles id (s.piles id) u := ⟨hu, hothers.piles_eq hs hu hid⟩
  rw [ActivationTemplate.event_of_isSpell hspell, collect_spellActivated, List.append_assoc]
  simp only [spellCounters, hothers.faceUp_eq]
  have hmem : ∀ card, id ∈ (s.faceUp card).filter (· ≠ source) ↔ id ∈ s.faceUp card := by
    simp [hid]
  refine .spellCounters hc ((faceUp_nodup hs _).filter _) hpiles fun v hv => ?_
  refine .spellCounters hc ((faceUp_nodup hs _).filter _) hv fun w hw => ?_
  simp only [hmem] at hw
  exact ensures_resolution hc heffect hid hw

/-- A trap or an ignition effect: every other copy keeps its counters. -/
theorem ensures_unanswered (hc : collector.CountsSpells) (hs : s.board.Sound)
    (heffect : effect ∈ effects) (hvalid : effect.validate book s source = .ok ())
    (hspell : effect.template.isSpell = false) (hid : id ≠ source) :
    Ensures collector (HasPiles id (s.piles id)) s (effect.steps s source) := by
  refine ensures_of_validate hs hvalid fun u hu hothers => ?_
  rw [hc.quiet u _ (ActivationTemplate.kind_event_ne hspell), List.nil_append]
  exact ensures_resolution hc heffect hid ⟨hu, hothers.piles_eq hs hu hid⟩

/-- A trap goes to the graveyard, and its counters are gone. -/
theorem ensures_departed (hc : collector.CountsSpells) (hs : s.board.Sound)
    (heffect : effect ∈ effects) (hvalid : effect.validate book s source = .ok ())
    (htrap : effect.template = .normalTrap) :
    Ensures collector (HasPiles source []) s (effect.steps s source) := by
  have hspell : effect.template.isSpell = false := by rw [htrap]; rfl
  have hself : effect.template.isSelfContained = true := by rw [htrap]; rfl
  obtain ⟨instructions, hperforms, -⟩ := exists_performs heffect
  have hbody : ∀ step ∈ effect.body s source, step.Prebuilt := hperforms.prebuilt s source
  refine ensures_of_validate hs hvalid fun u hu _ => ?_
  rw [hc.quiet u _ (ActivationTemplate.kind_event_ne hspell), List.nil_append,
    CardEffect.resolutionSteps_eq, if_pos hself]
  refine Ensures.keeping (P := fun t => t.board.Sound) ?_ (fun step hstep =>
    (hbody step hstep).unheard hc) hu fun t ht => ?_
  · intro step hstep t chosen out hrun ht
    exact ((hbody step hstep).respects t chosen out hrun).leads.sound ht
  · have hunheard := (Step.Prebuilt.sendToGraveyard source).unheard hc
    refine .quietly hunheard fun chosen out hsend => .done ⟨?_, ?_⟩
    · exact (handles_of_moveCard hsend).leads.sound ht
    · exact piles_of_sendToGraveyard ht hsend

theorem eq_royalMagicalLibraryEffect (heffect : effect ∈ effects)
    (htemplate : effect.template = .ignition) : effect = royalMagicalLibraryEffect := by
  have hspells : ∀ e ∈ spellEffects, e.template ≠ .ignition := by decide
  rcases List.mem_append.mp heffect with hspell | hlast
  · exact absurd htemplate (hspells effect hspell)
  · rw [List.mem_cons, List.mem_singleton] at hlast
    rcases hlast with rfl | rfl
    · cases htemplate
    · rfl

/-- The library pays for its card with three spell counters, which it has. -/
theorem ensures_paid (hc : collector.CountsSpells) (hs : s.board.Sound)
    (hvalid : royalMagicalLibraryEffect.validate book s source = .ok ()) :
    Ensures collector (fun t => libraryCounters ≤ Counter.held .spell (s.piles source) ∧
      HasPiles source (Counter.put .spell (Counter.held .spell (s.piles source) - libraryCounters)
        (s.piles source)) t) s (royalMagicalLibraryEffect.steps s source) := by
  obtain ⟨⟨⟩, htemplate, -⟩ := bind_eq_ok.mp hvalid
  obtain ⟨-, card, hfind, -, -, -, hlocation, -⟩ := ActivationTemplate.of_validate htemplate
  obtain ⟨hactivate, hin⟩ := ActivationTemplate.activate_spec_ignition hs hfind hlocation card.name
    royalMagicalLibraryEffect.id royalMagicalLibraryEffect.once
  refine .activation hfind hactivate ?_
  have hsteps : royalMagicalLibraryEffect.resolutionSteps s source =
      [.removeCounters source .spell libraryCounters, .draw 1] := rfl
  rw [hc.quiet _ _ (ActivationTemplate.kind_event_ne rfl), List.nil_append, hsteps]
  refine .quietly ((Step.Prebuilt.removeCounters source .spell libraryCounters).unheard hc)
    fun chosen paid hpay => ?_
  obtain ⟨henough, hpaid⟩ := piles_of_removeCounters hin.sound hpay
  rw [piles_mark hs] at henough hpaid
  have hsound : paid.state.board.Sound :=
    (spares_of_removeCounters (fun _ => True) trivial hpay).handles.leads.sound hin.sound
  refine .quietly ((Step.Prebuilt.draw 1).unheard hc) fun chosen drawn hdraw => .done ⟨henough, ?_⟩
  have hspares : Spares (fun _ => False) paid.state drawn.state := spares_of_draw _ hdraw
  exact HasPiles.spares ⟨hsound, hpaid⟩ hspares id

/-! ## The counters before and after -/

/-- The counters before and after a spell. -/
structure SpellCounted (source : InstanceId) (s t : Snapshot) : Prop where
  /-- Every other citadel has one spell counter more, up to the largest number there is. -/
  citadel : ∀ id ∈ s.faceUp Passcode.magicalCitadelOfEndymion, id ≠ source →
    (t.counter id .spell).toNat = min ((s.counter id .spell).toNat + 1) (UInt32.size - 1)
  /-- Every other library has one spell counter more, up to three. -/
  library : ∀ id ∈ s.faceUp Passcode.royalMagicalLibrary, id ≠ source →
    (t.counter id .spell).toNat = min 3 ((s.counter id .spell).toNat + 1)
  /-- No other counters have changed. -/
  others : ∀ id kind, id ≠ source →
    (kind = .spell → id ∉ s.faceUp Passcode.magicalCitadelOfEndymion ∧
      id ∉ s.faceUp Passcode.royalMagicalLibrary) →
    t.counter id kind = s.counter id kind

/-- The counters before and after a trap. -/
structure TrapCounted (source : InstanceId) (s t : Snapshot) : Prop where
  /-- The trap has no counters any more. -/
  gone : ∀ kind, t.counter source kind = 0
  /-- No other counters have changed. -/
  others : ∀ id kind, id ≠ source → t.counter id kind = s.counter id kind

/-- The counters before and after the effect of a library. -/
structure IgnitionCounted (source : InstanceId) (s t : Snapshot) : Prop where
  /-- The library has paid three spell counters. -/
  paid : (t.counter source .spell).toNat + 3 = (s.counter source .spell).toNat
  /-- No other counters have changed. -/
  others : ∀ id kind, (id = source → kind ≠ .spell) → t.counter id kind = s.counter id kind

theorem spellCounted_of_piles (hs : s.board.Sound)
    (h : ∀ id, id ≠ source → t.piles id = answered s id) : SpellCounted source s t where
  citadel := by
    intro id hcitadel hid
    have hlibrary : id ∉ s.faceUp Passcode.royalMagicalLibrary :=
      not_mem_faceUp_of_ne hs (by decide) hcitadel
    rw [counter_eq_held, counter_eq_held, h id hid, answered, if_pos hcitadel, if_neg hlibrary]
    exact Counter.held_gainSpell_none (s.piles id)
  library := by
    intro id hlibrary hid
    have hcitadel : id ∉ s.faceUp Passcode.magicalCitadelOfEndymion :=
      not_mem_faceUp_of_ne hs (by decide) hlibrary
    rw [counter_eq_held, counter_eq_held, h id hid, answered, if_neg hcitadel, if_pos hlibrary]
    exact Counter.held_gainSpell_library (s.piles id)
  others := by
    intro id kind hid hkind
    rw [counter_eq_held, counter_eq_held, h id hid, answered]
    by_cases hspell : kind = .spell
    · obtain ⟨hcitadel, hlibrary⟩ := hkind hspell
      rw [if_neg hcitadel, if_neg hlibrary]
    · split_ifs <;> simp only [Counter.held_gainSpell_of_ne hspell]

theorem trapCounted_of_piles (hsource : t.piles source = [])
    (h : ∀ id, id ≠ source → t.piles id = s.piles id) : TrapCounted source s t where
  gone := by
    intro kind
    rw [counter_eq_held, hsource]
    rfl
  others := by
    intro id kind hid
    rw [counter_eq_held, counter_eq_held, h id hid]

theorem ignitionCounted_of_piles (hkinds : ((s.piles source).map (·.kind)).Nodup)
    (henough : libraryCounters ≤ Counter.held .spell (s.piles source))
    (hsource : t.piles source = Counter.put .spell
      (Counter.held .spell (s.piles source) - libraryCounters) (s.piles source))
    (h : ∀ id, id ≠ source → t.piles id = s.piles id) : IgnitionCounted source s t where
  paid := by
    have hsub := UInt32.toNat_sub_of_le _ _ henough
    have hthree : libraryCounters.toNat = 3 := rfl
    have hle : libraryCounters.toNat ≤ (Counter.held .spell (s.piles source)).toNat := henough
    rw [counter_eq_held, counter_eq_held, hsource, Counter.held_put_self (.inr hkinds), hsub]
    omega
  others := by
    intro id kind hkind
    rw [counter_eq_held, counter_eq_held]
    by_cases hid : id = source
    · rw [hid, hsource, Counter.held_put_of_ne (hkind hid)]
    · rw [h id hid]

/-- No copy has two piles of counters of one kind. -/
def OnePilePerKind (s : Snapshot) : Prop :=
  ∀ p ∈ s.board.cards, (p.2.piles.map (·.kind)).Nodup

instance (s : Snapshot) : Decidable (OnePilePerKind s) :=
  inferInstanceAs (Decidable (∀ p ∈ s.board.cards, (p.2.piles.map (·.kind)).Nodup))

theorem OnePilePerKind.nodup (h : OnePilePerKind s) (id : InstanceId) :
    ((s.piles id).map (·.kind)).Nodup := by
  cases hfind : s.find? id with
  | none => simp [piles, hfind]
  | some card =>
    obtain ⟨-, name, hcard⟩ := Board.mem_zone_of_find? hfind
    rw [piles_of_find? hfind]
    exact h (name, card) (Board.mem_cards.mpr hcard)

/-- An effect that is found in an engine with the library is one of the library. -/
theorem mem_effects_of_effectOf {config : DuelConfig} {category : EffectCategory}
    (h : (engine config).effectOf s source category = .ok effect) : effect ∈ effects := by
  have hstocked := (Engine.filled_library (fun _ => False) config).stocked
  obtain ⟨card, -, hget⟩ := Engine.effectOf_eq_ok_iff.mp h
  rcases hstocked.effects category effect (Registry.mem_values_of_get hget) with
    heffect | ⟨_, hfalse, -⟩
  · exact heffect
  · exact hfalse.elim

/-- **Spell counters are neither lost nor placed twice.** Let an activation in the library complete,
on any snapshot that passes the check and whatever was chosen. After a spell every other citadel
that was face-up has one spell counter more, every other library one up to three, and no other copy
but the spell has gained or lost any counter. A trap has lost its own counters and nothing else, and
the effect of a library the three spell counters it costs and nothing else. -/
theorem counters_of_completed (config : DuelConfig) {category : EffectCategory}
    {q q' : Sequencer} {fuel : Nat} {calls : List SequencerCall} {log : CallLog}
    (hs : s.check = .ok ()) (hkinds : OnePilePerKind s)
    (h : (engine config).activate s source category = .ok (.ready q))
    (hplay : q.play fuel calls = some (q', log)) (hcomplete : q'.status = .complete) :
    ∃ effect, (engine config).effectOf s source category = .ok effect ∧
      (effect.template.isSpell = true → SpellCounted source s q'.state) ∧
      (effect.template = .normalTrap → TrapCounted source s q'.state) ∧
      (effect.template = .ignition → IgnitionCounted source s q'.state) := by
  have hc := (Engine.filled_library (fun _ => False) config).stocked.countsSpells
  have hsound : s.board.Sound := Board.check_eq_ok_iff.mp hs
  obtain ⟨effect, hof, hvalid, rfl⟩ := Engine.activate_eq_ready_iff.mp h
  have heffect : effect ∈ effects := mem_effects_of_effectOf hof
  have hothers : effect.template.isSpell = false → ∀ id, id ≠ source →
      q'.state.piles id = s.piles id := by
    intro hspell id hid
    have hensures := ensures_unanswered hc hsound heffect hvalid hspell hid
    exact (Sequencer.of_play_of_ensures hensures hplay hcomplete).piles_eq
  refine ⟨effect, hof, fun hspell => ?_, fun htrap => ?_, fun hignition => ?_⟩
  · refine spellCounted_of_piles hsound fun id hid => ?_
    have hensures := ensures_answered config hsound heffect hvalid hspell hid
    exact (Sequencer.of_play_of_ensures hensures hplay hcomplete).piles_eq
  · have hensures := ensures_departed hc hsound heffect hvalid htrap
    have hgone := Sequencer.of_play_of_ensures hensures hplay hcomplete
    exact trapCounted_of_piles hgone.piles_eq (hothers (by rw [htrap]; rfl))
  · obtain rfl := eq_royalMagicalLibraryEffect heffect hignition
    have hensures := ensures_paid hc hsound hvalid
    obtain ⟨henough, hpaid⟩ := Sequencer.of_play_of_ensures hensures hplay hcomplete
    exact ignitionCounted_of_piles (hkinds.nodup source) henough hpaid.piles_eq (hothers rfl)

/-! ### Two activations -/

/-- An activation on a snapshot, played out with the calls of a player. -/
def playedOut (s : Snapshot) (source : InstanceId) (calls : List SequencerCall) :
    Option (Sequencer × Sequencer × CallLog) := do
  let a ← ((engine {}).activate s source .activation).toOption
  match a with
  | .ready q => (q.play 20 calls).map fun r => (q, r)
  | .refused _ => none

theorem of_playedOut {calls : List SequencerCall} {q q' : Sequencer} {log : CallLog}
    (h : playedOut s source calls = some (q, q', log)) :
    (engine {}).activate s source .activation = .ok (.ready q) ∧
      q.play 20 calls = some (q', log) := by
  obtain ⟨a, hactivate, hplay⟩ := Option.bind_eq_some_iff.mp h
  cases a with
  | refused => cases hplay
  | ready r =>
    obtain ⟨result, hresult, heq⟩ := Option.map_eq_some_iff.mp hplay
    cases heq
    exact ⟨Engine.eq_ok_of_toOption hactivate, hresult⟩

/-- A citadel with two spell counters and a library without, Pot of Greed in hand. -/
def study : Snapshot :=
  let pot := CardData.spell Passcode.potOfGreed "Pot of Greed" .normal
  let citadel :=
    CardData.spell Passcode.magicalCitadelOfEndymion "Magical Citadel of Endymion" .field
  let library := CardData.monster Passcode.royalMagicalLibrary "Royal Magical Library" .effect
    ⟨4, 0, 2000, .spellcaster⟩
  { Sequencer.cardless with
    phase := .main
    board := {
      deck := [.new ⟨1⟩ pot .deck, .new ⟨2⟩ pot .deck]
      hand := [.new ⟨3⟩ pot .hand]
      monsterZone := [.new ⟨4⟩ library .monsterZone]
      fieldZone := [(CardInstance.new ⟨5⟩ citadel .fieldZone).mapField (·.setCounter .spell 2)] } }

/-- Pot of Greed brings the citadel its third spell counter and the library its first. -/
theorem counters_of_pot_of_greed : ∃ q q' log,
    (engine {}).activate study ⟨3⟩ .activation = .ok (.ready q) ∧
      q.play 20 [.start] = some (q', log) ∧ q'.status = .complete ∧
      (q'.state.counter ⟨5⟩ .spell, q'.state.counter ⟨4⟩ .spell) = (3, 1) ∧
      ∃ effect, (engine {}).effectOf study ⟨3⟩ .activation = .ok effect ∧
        (effect.template.isSpell = true → SpellCounted ⟨3⟩ study q'.state) ∧
        (effect.template = .normalTrap → TrapCounted ⟨3⟩ study q'.state) ∧
        (effect.template = .ignition → IgnitionCounted ⟨3⟩ study q'.state) := by
  have hrun : (playedOut study ⟨3⟩ [.start]).map (fun r => (r.2.1.status,
      r.2.1.state.counter ⟨5⟩ .spell, r.2.1.state.counter ⟨4⟩ .spell)) =
        some (.complete, 3, 1) := by
    decide +kernel
  obtain ⟨⟨q, q', log⟩, hplayed, heq⟩ := Option.map_eq_some_iff.mp hrun
  obtain ⟨hcomplete, hcounters⟩ := Prod.mk.inj heq
  obtain ⟨hactivate, hplay⟩ := of_playedOut hplayed
  exact ⟨q, q', log, hactivate, hplay, hcomplete, hcounters,
    counters_of_completed {} (by decide +kernel) (by decide +kernel) hactivate hplay hcomplete⟩

/-- Jar of Greed, set in an earlier turn, with a spell counter on it. -/
def countedTrap : Snapshot :=
  let jar := CardData.trap Passcode.jarOfGreed "Jar of Greed" .normal
  { Sequencer.cardless with
    board := {
      deck := [.new ⟨1⟩ jar .deck]
      spellTrapZone := [{
        id := ⟨2⟩
        data := jar
        location := .spellTrapZone
        field := some { Placement.set.fresh with counters := [⟨.spell, 1⟩] } }] } }

/-- A trap does change a counter besides those the library pays: its own, which it loses on the way
to the graveyard. -/
theorem trap_loses_counter : countedTrap.check = .ok () ∧ OnePilePerKind countedTrap ∧
    (∀ p ∈ countedTrap.board.cards, ∀ pile ∈ p.2.piles, 0 < pile.count) ∧
    (∃ effect, (engine {}).effectOf countedTrap ⟨2⟩ .activation = .ok effect ∧
      effect.template = .normalTrap) ∧
    ∃ q q' log, (engine {}).activate countedTrap ⟨2⟩ .activation = .ok (.ready q) ∧
      q.play 20 [.start] = some (q', log) ∧ q'.status = .complete ∧
      countedTrap.counter ⟨2⟩ .spell = 1 ∧ q'.state.counter ⟨2⟩ .spell = 0 := by
  have hof : ((engine {}).effectOf countedTrap ⟨2⟩ .activation).toOption.map (·.template) =
      some .normalTrap := by
    decide +kernel
  obtain ⟨effect, heffect, htemplate⟩ := Option.map_eq_some_iff.mp hof
  have hrun : (playedOut countedTrap ⟨2⟩ [.start]).map (fun r => (r.2.1.status,
      r.2.1.state.counter ⟨2⟩ .spell)) = some (.complete, 0) := by
    decide +kernel
  obtain ⟨⟨q, q', log⟩, hplayed, heq⟩ := Option.map_eq_some_iff.mp hrun
  obtain ⟨hcomplete, hcounter⟩ := Prod.mk.inj heq
  obtain ⟨hactivate, hplay⟩ := of_playedOut hplayed
  exact ⟨by decide +kernel, by decide +kernel, by decide +kernel,
    ⟨effect, Engine.eq_ok_of_toOption heffect, htemplate⟩, q, q', log, hactivate, hplay, hcomplete,
    rfl, hcounter⟩

end Library

end SoloDuel
