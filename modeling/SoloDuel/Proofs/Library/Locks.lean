import SoloDuel.Proofs.Engine.Upholds
import SoloDuel.Proofs.Library.SpellCounters
import SoloDuel.Proofs.Snapshot.FaceUp
/-!
# The two locks

No spell is activated while Spell Canceller is face-up, and nothing is special summoned while
Vanity's Fiend is. The first is asked once, when an activation begins, and the activation is
announced some steps later. Until then only the source has been moved or turned over, and it is no
Spell Canceller: that card has no effect to activate.

* `Library.unlocked_of_isActionPermitted`, `Library.unlocked_of_specialSummon` — what the rules say.
* `Library.Unhindered` — what is asked of every step of an activation.
* `Library.upholds_unhindered` — it holds of every step in the library.
* `Library.locks_hold` — the locks over a whole duel.
-/

namespace SoloDuel

open Snapshot

namespace Snapshot

variable {s t : Snapshot} {source : InstanceId} {card : CardId}

/-- Where only one copy has changed, and it is of another species, no other card has come
face-up. -/
theorem SameOthers.hasFaceUp_eq_false (h : SameOthers source s t) (hs : s.board.Sound)
    (ht : t.board.Sound) (hsource : ∀ c, t.find? source = some c → c.cardId ≠ card)
    (hface : s.hasFaceUp card = false) : t.hasFaceUp card = false := by
  refine Bool.eq_false_iff.mpr fun hafter => ?_
  obtain ⟨id, c, hfind, hcard, hup⟩ := (hasFaceUp_iff ht).mp hafter
  have hid : id ≠ source := by
    rintro rfl
    exact hsource c hfind hcard
  rw [h.find?_eq hs ht hid] at hfind
  have hbefore : s.hasFaceUp card = true := (hasFaceUp_iff hs).mpr ⟨id, c, hfind, hcard, hup⟩
  rw [hface] at hbefore
  cases hbefore

end Snapshot

/-- The rules are asked about a spell as a spell. -/
theorem ActivationTemplate.action_of_isSpell {template : ActivationTemplate} {effect : EffectId}
    {source : InstanceId} (h : template.isSpell = true) :
    template.action effect source = .activateSpell effect.card source := by
  cases template with
  | normalTrap | ignition => cases h
  | _ => rfl

/-- The one rule of a category permits what is allowed and it has a say on. -/
theorem RuleBook.AllPermit.permits_of_ofCategory {book : RuleBook} {category : RuleCategory}
    {rule : Rule} {s : Snapshot} {ctx : RuleContext} (h : book.AllPermit category s ctx)
    (hrules : book.ofCategory category = [rule]) (happlies : rule.canApply s ctx = true) :
    rule.permits s ctx = true := by
  have hmem : rule ∈ book.applicable category s ctx := by
    rw [applicable, hrules]
    simp [happlies]
  exact allPermit_iff.mp h rule hmem

namespace Library

open Passcode

variable {config : DuelConfig} {s s₀ t : Snapshot} {source : InstanceId} {effect : CardEffect}

/-! ## What the rules say -/

/-- A spell may be activated only while no Spell Canceller is face-up. -/
theorem unlocked_of_isActionPermitted {card : CardId}
    (h : (engine config).book.isActionPermitted s (.activateSpell card source) = true) :
    s.hasFaceUp spellCanceller = false := by
  have hrules : (engine config).book.ofCategory .actionPermission = [spellCancellerLock] :=
    ofCategory_engine config .actionPermission
  refine Bool.eq_false_iff.mpr fun hface => ?_
  have hpermits := (RuleBook.isActionPermitted_iff.mp h).permits_of_ofCategory hrules hface
  cases hpermits

/-- A monster is special summoned only while no Vanity's Fiend is face-up. -/
theorem unlocked_of_specialSummon {id : InstanceId} {out : Outcome}
    (h : (engine config).specialSummon s id = .ok out) : s.hasFaceUp vanitysFiend = false := by
  have hrules : (engine config).book.ofCategory .summonPermission = [vanitysFiendLock] :=
    ofCategory_engine config .summonPermission
  obtain ⟨card, hmay, -⟩ := Engine.specialSummon_eq_ok_iff.mp h
  refine Bool.eq_false_iff.mpr fun hface => ?_
  have hpermits := hmay.permissions.permits_of_ofCategory hrules hface
  cases hpermits

/-- Spell Canceller has no effect to activate. -/
theorem card_ne_spellCanceller : ∀ effect ∈ effects, effect.card ≠ spellCanceller := by
  decide

/-! ## Activations -/

/-- What a step of an activation keeps to: the board stays sound, and where the step announces a
spell no Spell Canceller is face-up, nor was one where the activation began. -/
structure Unhindered (s₀ s : Snapshot) (out : Outcome) : Prop where
  sound : out.state.board.Sound
  announced : ∀ card source, .spellActivated card source ∈ out.events →
    s₀.hasFaceUp spellCanceller = false ∧ s.hasFaceUp spellCanceller = false ∧
      out.state.hasFaceUp spellCanceller = false

/-- A step that announces no spell. -/
theorem Unhindered.of_kind_ne {out : Outcome} (hsound : out.state.board.Sound)
    (hkind : ∀ event ∈ out.events, event.kind ≠ .spellActivated) : Unhindered s₀ s out :=
  ⟨hsound, fun _ _ hmem => absurd rfl (hkind _ hmem)⟩

/-- A prebuilt step. -/
theorem Unhindered.of_prebuilt {step : Step} (h : step.Prebuilt) (ht : t.board.Sound)
    {chosen : List InstanceId} {out : Outcome} (hrun : step.run t chosen = .ok out) :
    Unhindered s₀ t out :=
  .of_kind_ne ((h.respects t chosen out hrun).leads.sound ht) (h.kind_ne hrun)

/-- A spell is allowed only while no Spell Canceller is face-up, and getting into play brings none
face-up. -/
theorem unlocked_of_validate (hs : s.board.Sound) (heffect : effect ∈ effects)
    (hspell : effect.template.isSpell = true)
    (hvalid : effect.template.validate (engine config).book s source effect.id effect.once = .ok ())
    (hleads : Leads s t) (hothers : SameOthers source s t) :
    s.hasFaceUp spellCanceller = false ∧ t.hasFaceUp spellCanceller = false := by
  obtain ⟨-, card, hfind, -, hcard, -, -, -, hpermitted⟩ := ActivationTemplate.of_validate hvalid
  rw [ActivationTemplate.action_of_isSpell hspell] at hpermitted
  have hbefore := unlocked_of_isActionPermitted hpermitted
  refine ⟨hbefore, hothers.hasFaceUp_eq_false hs (hleads.sound hs) (fun c hc => ?_) hbefore⟩
  rw [CardInstance.cardId, data_eq_of_leads hleads hs hfind hc, ← CardInstance.cardId, hcard]
  exact card_ne_spellCanceller effect heffect

/-- **No step of an activation in the library is hindered.** -/
theorem throughout_unhindered (hs : s.board.Sound) (heffect : effect ∈ effects)
    (hvalid : effect.validate (engine config).book s source = .ok ()) :
    Throughout (engine config).book.collect (Unhindered s) s (effect.steps s source) := by
  have hstocked := (Engine.filled_library (fun _ => False) config).stocked
  obtain ⟨instructions, hperforms, -⟩ := exists_performs heffect
  obtain ⟨⟨⟩, htemplate, -⟩ := bind_eq_ok.mp hvalid
  obtain ⟨card, u, message, hfind, hactivate, hu⟩ :=
    ActivationTemplate.exists_activated_of_validate hs htemplate
  refine .activation hfind hactivate (.of_kind_ne hu.sound (by simp))
    (fun told => .of_kind_ne hu.sound (by simp)) ⟨hu.sound, fun named origin hmem => ?_⟩ ?_
  · -- What is announced as a spell was asked for as a spell.
    have hspell : effect.template.isSpell = true := by
      by_contra hnot
      have hkind : (effect.template.event effect.id source).kind ≠ .spellActivated :=
        ActivationTemplate.kind_event_ne (Bool.eq_false_iff.mpr hnot)
      rw [← List.mem_singleton.mp hmem] at hkind
      exact hkind rfl
    have hleads : Leads s u := ActivationTemplate.activate_respects _ _ _ _ _ s [] _ hactivate
    obtain ⟨hbefore, hafter⟩ :=
      unlocked_of_validate hs heffect hspell htemplate hleads hu.others
    exact ⟨hbefore, hafter, hafter⟩
  · -- What follows announces no spell.
    have hprebuilt : ∀ step ∈ (engine config).book.collect u
        (effect.template.event effect.id source) ++ effect.resolutionSteps s source,
        step.Prebuilt := by
      intro step hstep
      rcases List.mem_append.mp hstep with hanswer | hresolution
      · obtain ⟨id, limit, rfl⟩ := hstocked.exists_eq_addCounters_of_mem_collect hanswer
        exact .addCounters id .spell 1 limit
      · exact CardEffect.resolutionSteps_prebuilt hperforms.prebuilt step hresolution
    refine .of_keeping (J := fun t => t.board.Sound) (fun step hstep t chosen out ht hrun => ?_)
      (fun step hstep => (hprebuilt step hstep).unheard hstocked.countsSpells) hu.sound
    have hunhindered : Unhindered s t out := .of_prebuilt (hprebuilt step hstep) ht hrun
    exact ⟨hunhindered, hunhindered.sound⟩

/-! ## The whole duel -/

/-- Every step of an activation in the library is unhindered. -/
theorem upholds_unhindered (config : DuelConfig) :
    (engine config).Upholds (·.board.Sound) Unhindered where
  command := fun hs hperform => by
    have hstocked := (Engine.filled_library (fun _ => False) config).stocked
    exact (Engine.leads_of_command (hstocked.replaces_handles.mono Handles.leads)
      hperform).sound hs
  activate := fun hs hready => by
    obtain ⟨effect, hof, hvalid, rfl⟩ := Engine.activate_eq_ready_iff.mp hready
    exact Sequencer.guarded_new (throughout_unhindered hs (mem_effects_of_effectOf hof) hvalid)
  outcome := Unhindered.sound

/-- **The locks hold over a whole duel.** Whatever commands and activations have been carried out
since the opening, and whatever was chosen: every activation that has announced a spell began with
no Spell Canceller face-up; whatever is done next, no Spell Canceller is face-up before and after a
spell is announced; and no special summon succeeds while Vanity's Fiend is face-up. -/
theorem locks_hold (config : DuelConfig) {deck : List CardId} {history : List Entry} {m : Moment}
    (hopening : (engine config).newGame deck = .ok s)
    (h : (engine config).Run s history m) :
    (∀ q, m = .during q → ∀ card source, .spellActivated card source ∈ q.events →
      q.initial.hasFaceUp spellCanceller = false) ∧
    (∀ d q reported card source, (engine config).Does m d (.during q) →
      q.events = m.events ++ reported → .spellActivated card source ∈ reported →
      m.state.hasFaceUp spellCanceller = false ∧ q.state.hasFaceUp spellCanceller = false) ∧
    (∀ id out, (engine config).specialSummon m.state id = .ok out →
      m.state.hasFaceUp vanitysFiend = false) := by
  have hstocked := (Engine.filled_library (fun _ => False) config).stocked
  have hupholds := upholds_unhindered config
  have hsound : s.board.Sound := (opening_spec hopening).1
  refine ⟨fun q hq card source hmem => ?_, fun d q reported card source hdoes hevents hmem => ?_,
    fun id out hsummon => ?_⟩
  · have hevent := h.of_event (E := fun s₀ event => ∀ card source,
        event = .spellActivated card source → s₀.hasFaceUp spellCanceller = false) hstocked hupholds
      (fun hout event hmem card source heq => (hout.announced card source (heq ▸ hmem)).1)
      hsound q hq _ hmem
    exact hevent card source rfl
  · have hcancel := (hdoes.binding hstocked (h.binding hstocked)).2
    obtain ⟨q₀, step, chosen, out, rfl, hstep, hrun, hmem, hstate, -⟩ :=
      hdoes.exists_of_event hcancel hevents hmem
    have hguarded := (h.upholds hstocked hupholds hsound).2.2
    obtain ⟨-, hbefore, hafter⟩ := (hguarded.holds hstep hrun).announced card source hmem
    rw [← hstate] at hafter
    exact ⟨hbefore, hafter⟩
  · exact unlocked_of_specialSummon hsummon

/-- Pot of Greed is activated in the first main phase, and its activation is announced. -/
theorem locks_hold_with_pot_of_greed :
    ∃ s history q, (engine Engine.unshuffled).newGame Engine.fourPots = .ok s ∧
      (engine Engine.unshuffled).Run s history (.during q) ∧
      .spellActivated potOfGreed (Board.entryId 3) ∈ q.events ∧
      q.initial.hasFaceUp spellCanceller = false := by
  have hrun : ((engine Engine.unshuffled).readyAfter Engine.fourPots [.advanceTo .main]
      (Board.entryId 3)).bind (fun q => (q.play 20 [.start]).map fun r =>
        r.1.events.contains (.spellActivated potOfGreed (Board.entryId 3))) = some true := by
    decide +kernel
  obtain ⟨q, hready, hrun⟩ := Option.bind_eq_some_iff.mp hrun
  obtain ⟨⟨q', log⟩, hplay, hevents⟩ := Option.map_eq_some_iff.mp hrun
  obtain ⟨s, history, hopening, hhistory⟩ := Engine.exists_run_of_readyAfter hready
  obtain ⟨⟨more, hmore⟩, -⟩ := hhistory.play hplay
  have hmem := List.contains_iff_mem.mp hevents
  obtain ⟨hinitial, -, -⟩ := locks_hold Engine.unshuffled hopening hmore
  exact ⟨s, _, q', hopening, hmore, hmem, hinitial q' rfl _ _ hmem⟩

end Library

end SoloDuel
