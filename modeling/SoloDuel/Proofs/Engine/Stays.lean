import SoloDuel.Proofs.Engine.Binding
import SoloDuel.Proofs.Engine.Sparing
import SoloDuel.Proofs.Engine.Turns
import SoloDuel.Proofs.Snapshot.Stays
/-!
# Stays in the course of a duel

Whatever is done in a duel, one of three things comes of a copy in a zone on the field. Most often
it stays there with its notes about the turn, or arrives there or leaves, and the turn goes on.
Three commands put a card from the hand on the field and note that it was placed. And the start of a
turn leaves it where it is and takes the notes away.

* `Command.brings?`, `Command.places?` — the copy that a command puts on the field, and those that
  are noted as placed.
* `Engine.LetsStay` — effects, triggers and rules that leave the copy's stays in the zone alone;
  `Stocked.letsStay` says that those of the library and scripts do.
* `Fate`, `Engine.Does.fate` — the three things.
-/

namespace SoloDuel

open Snapshot

variable {id other : InstanceId} {zone : ZoneName} {s : Snapshot} {out : Outcome}

/-! ## Steps -/

/-- **Prebuilt steps leave a stay alone**, but for the step that puts the copy into the zone. -/
theorem Step.Prebuilt.stays {step : Step} (h : step.Prebuilt)
    (hmove : ∀ placement, step ≠ .moveToField id zone placement) :
    step.Respects (Stays id zone) := by
  intro s chosen out hrun
  cases h with
  | draw | drawUntil => exact (spares_of_draw (fun _ => True) hrun).stays
  | discardMatching => exact (spares_of_discard (fun _ => True) hrun).stays
  | search =>
    cases chosen with
    | nil => cases hrun
    | cons id rest => exact (spares_of_search (fun _ => True) hrun).stays
  | addToHand =>
    cases chosen with
    | nil => cases hrun
    | cons id rest => exact (spares_of_addToHand (fun _ => True) (fun _ => trivial) hrun).stays
  | sendToGraveyard => exact (spares_of_sendToGraveyard (fun _ => True) trivial hrun).stays
  | moveToField other target placement =>
    refine stays_of_moveToField hrun ?_
    by_contra hsame
    rw [not_or, not_not, not_not] at hsame
    obtain ⟨rfl, rfl⟩ := hsame
    exact hmove placement rfl
  | addCounters => exact (spares_of_addCounters (fun _ => True) trivial hrun).stays
  | removeCounters => exact (spares_of_removeCounters (fun _ => True) trivial hrun).stays
  | gainLife | loseLife =>
    cases hrun
    exact stays_of_board rfl rfl
  | notify =>
    cases hrun
    exact .refl id zone s

namespace ActivationTemplate

variable {t : ActivationTemplate} {name : String} {source : InstanceId} {effect : EffectId}
  {once : OncePerTurn}

/-- The first step of an activation brings its source onto the field without a note, or leaves it in
its stay. -/
theorem activate_passes : (t.activate name source effect once).Respects (Passes id zone) := by
  intro s chosen out hrun hs
  obtain ⟨card, entered, hfind, henter, hout⟩ := exists_enterPlay_of_activate hrun
  obtain ⟨rfl, -⟩ := Board.mem_zone_of_find? hfind
  have hentered : Passes id zone s entered.state := passes_of_enterPlay hfind henter
  rw [hout]
  exact hentered.trans_stays (stays_mark _ _ _ _) hs

end ActivationTemplate

/-! ## Commands -/

namespace Command

/-- The copy that a command brings onto the field and notes as placed this turn. -/
def places? : Command → Option InstanceId
  | normalSummon id | setMonster id | setSpellTrap id => some id
  | _ => none

/-- The copy that a command brings onto the field. -/
def brings? : Command → Option InstanceId
  | normalSummon id | setMonster id | specialSummon id | setSpellTrap id => some id
  | _ => none

end Command

theorem Snapshot.clears_stays (id : InstanceId) (zone : ZoneName) : Clears (Stays id zone) where
  trans := .trans
  spares := Spares.stays
  decided := fun _ _ _ _ => stays_of_board rfl rfl

/-! ## What leaves a stay alone -/

/-- A run whose steps, and those with which triggers answer, cannot be cancelled and leave the
copy's stays in the zone alone. -/
structure Sequencer.LetsStay (q : Sequencer) (id : InstanceId) (zone : ZoneName) : Prop where
  binding : q.Binding
  steps : ∀ step ∈ q.steps, step.Respects (Passes id zone)
  collector : q.collector.Respects (Passes id zone)

/-- In the middle of an activation, it leaves the copy's stays alone. -/
def Moment.LetsStay (m : Moment) (id : InstanceId) (zone : ZoneName) : Prop :=
  match m with
  | between _ => True
  | during q => q.LetsStay id zone

/-- What effects do once the source is in play and what triggers answer cannot be cancelled. That,
and what rules put in the place of a destruction, leaves the copy's stays in the zone alone. -/
structure Engine.LetsStay (e : Engine) (id : InstanceId) (zone : ZoneName) : Prop where
  effects : ∀ category, ∀ effect ∈ (e.effects.ofCategory category).values, ∀ s source,
    ∀ step ∈ effect.body s source, step.Binding ∧ step.Respects (Passes id zone)
  triggers : ∀ s event, ∀ step ∈ e.book.collect s event,
    step.Binding ∧ step.Respects (Passes id zone)
  rules : e.book.Replaces (Stays id zone)

/-- **The library and scripts leave stays alone.** -/
theorem Engine.Stocked.letsStay {scripts : Script → Prop} {e : Engine} (h : e.Stocked scripts)
    (id : InstanceId) (zone : ZoneName) : e.LetsStay id zone where
  effects := by
    intro category effect heffect s source step hstep
    obtain ⟨instructions, hperforms⟩ := h.exists_performs heffect
    refine ⟨(h.prebuilt_effect heffect s source step hstep).binding, ?_⟩
    rw [hperforms s source] at hstep
    obtain ⟨i, -, rfl⟩ := List.mem_map.mp hstep
    have hspares : (i.step source).Respects (Spares fun _ => True) :=
      i.spares trivial fun _ _ => trivial
    exact hspares.mono fun hst => hst.stays.passes
  triggers := by
    intro s event step hstep
    have hspares := h.collect_spares s event step hstep
    obtain ⟨other, limit, rfl⟩ := h.exists_eq_addCounters_of_mem_collect hstep
    exact ⟨(Step.Prebuilt.addCounters other .spell 1 limit).binding,
      hspares.mono fun hst => hst.stays.passes⟩
  rules := h.replaces_spares.mono fun hst => hst.stays

namespace Sequencer

variable {q q' : Sequencer}

/-- What a visit or a choice does to a stay. -/
theorem LetsStay.advances (h : q.LetsStay id zone) (hadvances : q.Advances q')
    (hbinding : q'.Binding) : q'.LetsStay id zone ∧ Passes id zone q.state q'.state := by
  cases hadvances with
  | paused => exact ⟨⟨hbinding, h.steps, h.collector⟩, (Stays.refl id zone q.state).passes⟩
  | ran status hstep hrun =>
    refine ⟨⟨hbinding, fun step hmem => ?_, h.collector⟩,
      h.steps _ (List.mem_of_getElem? hstep) q.state _ _ hrun⟩
    rcases mem_steps_accept hmem with hmem | ⟨event, -, hmem⟩
    · exact h.steps step hmem
    · exact h.collector _ event step hmem

end Sequencer

namespace Engine

variable {e : Engine} {m m' : Moment} {d : Deed}

/-- **Activations leave stays alone** in an engine that does. -/
theorem LetsStay.activate (he : e.LetsStay id zone) {source : InstanceId}
    {category : EffectCategory} {q : Sequencer}
    (h : e.activate s source category = .ok (.ready q)) : q.LetsStay id zone := by
  obtain ⟨card, effect, hfind, hget, -, rfl⟩ := exists_effect_of_activate h
  have hsteps : ∀ step ∈ effect.steps s source,
      step.Binding ∧ step.Respects (Passes id zone) := by
    rw [effect.steps_eq hfind, effect.resolutionSteps_eq, List.forall_mem_cons,
      List.forall_mem_cons, List.forall_mem_cons, List.forall_mem_append]
    refine ⟨⟨by rintro t request ⟨⟩, ActivationTemplate.activate_passes⟩,
      ⟨by rintro t request ⟨⟩, ?_⟩, ⟨by rintro t request ⟨⟩, ?_⟩,
      he.effects category effect (Registry.mem_values_of_get hget) s source, fun step hstep => ?_⟩
    · intro t chosen out hrun
      cases hrun
      exact (Stays.refl id zone t).passes
    · intro t chosen out hrun
      cases hrun
      exact (Stays.refl id zone t).passes
    · split at hstep
      · obtain rfl := List.mem_singleton.mp hstep
        refine ⟨(Step.Prebuilt.sendToGraveyard source).binding, fun t chosen out hrun => ?_⟩
        exact (spares_of_sendToGraveyard (fun _ => True) trivial hrun).stays.passes
      · cases hstep
  refine ⟨⟨fun step hstep => (hsteps step hstep).1, fun t event step hstep =>
    (he.triggers t event step hstep).1, by rintro i request ⟨⟩⟩, fun step hstep =>
    (hsteps step hstep).2, fun t event step hstep => (he.triggers t event step hstep).2⟩

/-! ## What a command does to a stay -/

/-- **A card that a command brings onto the field was not there.** -/
theorem exists_find?_of_brings {c : Command} (hc : c.brings? = some id)
    (h : c.perform e s = .ok out) :
    ∃ card, s.find? id = some card ∧ card.location.isOnField = false := by
  cases c with
  | normalSummon | setMonster =>
    cases hc
    obtain ⟨card, hmay, -⟩ := summonFromHand_eq_ok_iff.mp h
    refine ⟨card, hmay.found, ?_⟩
    rw [hmay.inHand]
    rfl
  | setSpellTrap =>
    cases hc
    obtain ⟨-, -, card, hfind, hhand, -⟩ := e.setSpellTrap_eq_ok_iff.mp h
    refine ⟨card, hfind, ?_⟩
    rw [hhand]
    rfl
  | specialSummon =>
    cases hc
    obtain ⟨card, hmay, -⟩ := specialSummon_eq_ok_iff.mp h
    refine ⟨card, hmay.found, ?_⟩
    rcases hmay.inHandOrGraveyard with hlocation | hlocation <;> rw [hlocation] <;> rfl
  | _ => cases hc

/-- What a deed does to a copy in a zone. -/
inductive Fate (id : InstanceId) (zone : ZoneName) (m : Moment) (d : Deed) (m' : Moment) : Prop
  /-- The copy stays, arrives without a note, or is not there afterwards. -/
  | passed : (∀ c, d = .command c → c.places? ≠ some id) → Passes id zone m.state m'.state →
      Fate id zone m d m'
  /-- The copy is put on the field and noted as placed this turn. -/
  | placed {c : Command} : d = .command c → c.places? = some id →
      m.state.stateIn? id zone = none → m'.state.turn = m.state.turn →
      (∀ g, m'.state.stateIn? id zone = some g → g.placedThisTurn = true) → Fate id zone m d m'
  /-- A turn begins. -/
  | begun : (∀ c, d = .command c → c.places? ≠ some id) → m'.state.turn ≠ m.state.turn →
      (∀ g, m'.state.stateIn? id zone = some g → g.placedThisTurn = false) → Fate id zone m d m'

/-- A command that sets a card notes it, and leaves the other cards in their stays. -/
theorem fate_of_setCard (hs : s.board.Sound) {c : Command} {target : ZoneName}
    {placement : Placement} {set : Outcome} {t : Snapshot} (hc : c.places? = some other)
    (haway : s.stateIn? other zone = none) (hset : s.setCard other target placement = .ok set)
    (hboard : t.board = set.state.board) (hturn : t.turn = set.state.turn) :
    t.board.Sound ∧ Fate id zone (.between s) (.command c) (.between t) := by
  obtain ⟨hsound, hsame, hstate⟩ := placed_of_setCard hs hset
  have hsame' : t.turn = s.turn := hturn.trans hsame
  have hstate' : ∀ g, t.stateIn? id zone = some g →
      if id = other then g.placedThisTurn = true else s.stateIn? id zone = some g :=
    fun g hg => hstate id zone g (stateIn?_eq_of_board hboard id zone ▸ hg)
  rw [← hboard] at hsound
  refine ⟨hsound, ?_⟩
  by_cases hid : id = other
  · subst hid
    exact .placed rfl hc haway hsame' fun g hg => by simpa using hstate' g hg
  · refine .passed (fun c' hc' hplaces => ?_) fun _ => ⟨hsound, hsame', fun g hg => ?_⟩
    · cases hc'
      exact hid (Option.some.inj (hplaces.symm.trans hc))
    · have hbefore := hstate' g hg
      rw [if_neg hid] at hbefore
      exact .inl ⟨g, hbefore, .refl g⟩

/-- **What a command does to a stay.** -/
theorem fate_of_command (he : e.LetsStay id zone) (hs : s.board.Sound) {c : Command}
    (h : c.perform e s = .ok out) :
    out.state.board.Sound ∧ Fate id zone (.between s) (.command c) (.between out.state) := by
  have hpassed : c.places? = none → Passes id zone s out.state →
      out.state.board.Sound ∧ Fate id zone (.between s) (.command c) (.between out.state) := by
    intro hnone hpasses
    refine ⟨(hpasses hs).1, .passed (fun c' hc' hplaces => ?_) hpasses⟩
    cases hc'
    rw [hnone] at hplaces
    cases hplaces
  have haway : ∀ other, c.brings? = some other → s.stateIn? other zone = none := by
    intro other hbrings
    obtain ⟨card, hfind, hlocation⟩ := exists_find?_of_brings hbrings h
    exact stateIn?_eq_none_of_location hs hfind hlocation
  cases c with
  | advancePhase | advanceTo =>
    have hadvanced := advanced_of_advances rfl h
    generalize out.state = t at hadvanced hpassed ⊢
    cases hadvanced with
    | within => exact hpassed rfl (stays_of_board rfl rfl).passes
    | begun =>
      refine ⟨(Change.turn s).leads.sound hs, .begun ?_ s.turn_beginTurn_ne fun g hg => ?_⟩
      · rintro c' ⟨⟩ ⟨⟩
      · have hbegun : s.beginTurn.stateIn? id zone = some g := hg
        rw [stateIn?_beginTurn hs] at hbegun
        obtain ⟨f, -, rfl⟩ := Option.map_eq_some_iff.mp hbegun
        rfl
  | drawForTurn | settle | evaluateVictory | destroy | applySelfDestruction =>
    exact hpassed rfl (of_clearing (clears_stays id zone) he.rules rfl h).passes
  | normalSummon other | setMonster other =>
    obtain ⟨card, set, -, -, -, hset, hout⟩ := exists_of_summonFromHand h
    rw [hout]
    exact fate_of_setCard hs rfl (haway other rfl) hset rfl rfl
  | specialSummon other =>
    obtain ⟨card, moved, -, -, hmove, hout⟩ := exists_of_specialSummon h
    refine hpassed rfl ?_
    rw [hout]
    exact passes_of_moveToField hmove fun _ hid _ => hid ▸ haway other rfl
  | setSpellTrap other =>
    obtain ⟨card, -, -, hset⟩ := e.exists_of_setSpellTrap h
    exact fate_of_setCard hs rfl (haway other rfl) hset rfl rfl

/-- **What a deed does to a stay.** -/
theorem Does.fate (he : e.LetsStay id zone) (hm : m.LetsStay id zone) (hs : m.state.board.Sound)
    (h : e.Does m d m') :
    m'.LetsStay id zone ∧ m'.state.board.Sound ∧ Fate id zone m d m' := by
  -- only a command may note a card as placed or begin a turn
  have hpassed : ∀ {m' : Moment}, (∀ c, d ≠ .command c) → Passes id zone m.state m'.state →
      m'.state.board.Sound ∧ Fate id zone m d m' := fun hd hpasses =>
    ⟨(hpasses hs).1, .passed (fun c hc => absurd hc (hd c)) hpasses⟩
  have hrefl : Passes id zone m.state m.state := (Stays.refl id zone m.state).passes
  cases h with
  | command hperform => exact ⟨trivial, fate_of_command he hs hperform⟩
  | refusedCommand | refusedActivation => exact ⟨trivial, hpassed (by rintro c ⟨⟩) hrefl⟩
  | activate hready =>
    have hstays := he.activate hready
    obtain ⟨effect, -, -, rfl⟩ := activate_eq_ready_iff.mp hready
    exact ⟨hstays, hpassed (by rintro c ⟨⟩) hrefl⟩
  | visit =>
    obtain ⟨hstays, hpasses⟩ :=
      Sequencer.LetsStay.advances hm (Sequencer.advances_visit _) hm.binding.visit
    exact ⟨hstays, hpassed (by rintro c ⟨⟩) hpasses⟩
  | @choose q i request step chosen _ hstep =>
    have hrunning : ({ q with status := .running q.cursor } : Sequencer).Binding :=
      hm.binding.withStatus (by rintro i request ⟨⟩)
    obtain ⟨hstays, hpasses⟩ := Sequencer.LetsStay.advances hm
      (Sequencer.advances_execute hstep (.running q.cursor) chosen) (hrunning.execute step chosen)
    exact ⟨hstays, hpassed (by rintro c ⟨⟩) hpasses⟩
  | cancel hcancel => exact absurd hcancel hm.binding.cancel_ne
  | leave => exact ⟨trivial, hpassed (by rintro c ⟨⟩) hrefl⟩

end Engine

end SoloDuel
