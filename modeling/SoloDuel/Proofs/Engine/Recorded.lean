import SoloDuel.Proofs.Activation.Activated
import SoloDuel.Proofs.Engine.Stays
/-!
# Recorded activations

The field state of a card records which effects the card has activated this turn, in this stay on
the field. The first step of an activation makes the record, after it has put the card into play,
and there it is until the stay ends or a turn begins.

An effect that all copies of its card may use only once together makes no record on the copy: it is
the card that is marked as used.

* `Snapshot.hasActivated` — whether a copy has the record of an effect.
* `ActivationTemplate.hasActivated_activate_iff` — after which activations it has.
* `Engine.Goes`, `Engine.Lingers` — what can be done, and what is done while a copy stays.
* `Engine.recorded_of_validate` — which activations are recorded, and that a record stays.
* `Engine.not_recorded_of_toon_world` — an activation without a record.
-/

namespace SoloDuel

open Snapshot

namespace FieldState

variable {f g : FieldState} {effect : EffectId}

theorem hasActivated_markActivated (f : FieldState) (effect : EffectId) :
    (f.markActivated effect).hasActivated effect = true := by
  unfold markActivated
  split
  · assumption
  · simp [hasActivated]

theorem Carries.hasActivated (h : f.Carries g) (hf : f.hasActivated effect = true) :
    g.hasActivated effect = true :=
  List.contains_iff_mem.mpr (h.activated (List.contains_iff_mem.mp hf))

end FieldState

namespace Snapshot

variable {s : Snapshot} {id : InstanceId} {zone : ZoneName} {f : FieldState}

/-- Whether a copy has the record that it has activated an effect this turn, in this stay on the
field. -/
def hasActivated (s : Snapshot) (id : InstanceId) (effect : EffectId) : Bool :=
  ((s.find? id).bind (·.field)).any (·.hasActivated effect)

theorem hasActivated_of_stateIn? (h : s.stateIn? id zone = some f) (effect : EffectId) :
    s.hasActivated id effect = f.hasActivated effect := by
  obtain ⟨card, hfind, -, hfield⟩ := stateIn?_eq_some_iff.mp h
  rw [hasActivated, hfind, Option.bind_some, hfield, Option.any_some]

theorem hasActivated_eq_false {card : CardInstance} (h : s.find? id = some card)
    (hfield : card.isOnField = false) (effect : EffectId) : s.hasActivated id effect = false := by
  rw [hasActivated, h, Option.bind_some, CardInstance.field_eq_none hfield, Option.any_none]

theorem InPlay.exists_stateIn? (h : InPlay id zone s) : ∃ f, s.stateIn? id zone = some f := by
  obtain ⟨card, hfind, hlocation, hface⟩ := h.card
  obtain ⟨f, hfield, -⟩ := (Option.any_eq_true _ _).mp hface
  exact ⟨f, stateIn?_eq_some_iff.mpr ⟨card, hfind, hlocation, hfield⟩⟩

end Snapshot

/-! ## What an activation records -/

namespace ActivationTemplate

variable {t : ActivationTemplate} {book : RuleBook} {s : Snapshot} {source : InstanceId}
  {zone : ZoneName} {card : CardInstance} {effect : EffectId} {once : OncePerTurn} {out : Outcome}
  {f : FieldState}

/-- **Getting into play adds no record and takes none away.** -/
theorem hasActivated_enterPlay {destination : Option ZoneName} (hs : s.board.Sound)
    (hfind : s.find? card.id = some card) (h : enterPlay destination s card = .ok out)
    (hf : out.state.stateIn? card.id zone = some f) (effect : EffectId) :
    f.hasActivated effect = s.hasActivated card.id effect := by
  unfold enterPlay at h
  split at h
  · -- from off the field the card comes with fresh field state
    rename_i hfield
    obtain ⟨origin, hrelocate⟩ := exists_relocate_of_moveToField h
    obtain ⟨-, -, hstate⟩ := stateIn?_of_relocate hs hrelocate
    rw [hstate, if_pos rfl] at hf
    rw [hasActivated_eq_false hfind hfield]
    split at hf
    · obtain rfl := Option.some.inj hf
      rfl
    · cases hf
  · cases h
    exact (hasActivated_of_stateIn? hf effect).symm
  · split at h
    · cases h
      exact (hasActivated_of_stateIn? hf effect).symm
    · rename_i hfield _
      simp only [flipFaceUp, hfind, if_pos hfield] at h
      cases h
      rw [stateIn?_modifyField hs] at hf
      obtain ⟨g, hg, rfl⟩ := Option.map_eq_some_iff.mp hf
      rw [hasActivated_of_stateIn? hg, Board.only, if_pos rfl]
      rfl

/-- **Marking a use** makes a record, unless all copies of the card are marked together. -/
theorem exists_stateIn?_mark (hs : s.board.Sound) (hf : s.stateIn? source zone = some f)
    (effect : EffectId) (once : OncePerTurn) :
    ∃ g, (mark s source effect once).stateIn? source zone = some g ∧
      (g.hasActivated effect = true ↔ once ≠ .card ∨ f.hasActivated effect = true) := by
  have hmarked : ∀ {u : Snapshot}, u.board = s.board →
      (u.modifyField source (·.markActivated effect)).stateIn? source zone =
        some (f.markActivated effect) := by
    intro u hboard
    rw [stateIn?_modifyField (hboard ▸ hs), stateIn?_eq_of_board hboard, hf, Option.map_some,
      Board.only, if_pos rfl]
  cases once with
  | card =>
    refine ⟨f, hf, ?_⟩
    simp
  | unlimited => exact ⟨_, hmarked rfl, by simp [f.hasActivated_markActivated effect]⟩
  | copy => exact ⟨_, hmarked rfl, by simp [f.hasActivated_markActivated effect]⟩

/-- **What the first step of an allowed activation records.** Whatever was recorded on the source
still is. The effect is recorded now, unless all copies of the card are marked together. -/
theorem hasActivated_activate_iff (hs : s.board.Sound)
    (hvalid : t.validate book s source effect once = .ok ()) :
    ∃ card out, s.find? source = some card ∧
      (t.activate card.name source effect once).run s [] = .ok out ∧ out.state.board.Sound ∧
      (out.state.stateIn? source (t.destination.getD card.location)).isSome = true ∧
      (out.state.hasActivated source effect = true ↔
        once ≠ .card ∨ s.hasActivated source effect = true) := by
  obtain ⟨card, u, message, hfind, hrun, hactivated⟩ := exists_activated_of_validate hs hvalid
  obtain ⟨g, hg⟩ := hactivated.toInPlay.exists_stateIn?
  refine ⟨card, _, hfind, hrun, hactivated.sound, Option.isSome_iff_exists.mpr ⟨g, hg⟩, ?_⟩
  obtain ⟨c, entered, hc, henter, hout⟩ := exists_enterPlay_of_activate hrun
  obtain ⟨rfl, -⟩ := mem_zone_of_find? hs hc
  obtain rfl : u = mark entered.state c.id effect once := hout
  -- the source lies in the zone when its use is marked
  obtain ⟨hentered, -⟩ := of_enterPlay hs hc henter
  obtain ⟨-, -, hstate⟩ := stays_mark entered.state c.id effect once hentered
  obtain ⟨f, hf, -⟩ := hstate g hg
  obtain ⟨g', hg', hrecorded⟩ := exists_stateIn?_mark hentered hf effect once
  rw [hasActivated_of_stateIn? hg', hrecorded, hasActivated_enterPlay hs hc henter hf]

end ActivationTemplate

/-! ## While a card stays -/

namespace Engine

variable {e : Engine} {source : InstanceId} {zone : ZoneName} {m m' : Moment} {f g : FieldState}
  {effect : EffectId}

/-- Whatever can be done in a duel: a deed, or a prebuilt step run by itself, other than the one
that puts the copy into the zone anew. -/
inductive Goes (e : Engine) (source : InstanceId) (zone : ZoneName) : Moment → Moment → Prop
  | does {m m' : Moment} {d : Deed} : e.Does m d m' → Goes e source zone m m'
  | step {s : Snapshot} {step : Step} {chosen : List InstanceId} {out : Outcome} :
      step.Prebuilt → (∀ placement, step ≠ .moveToField source zone placement) →
      step.run s chosen = .ok out → Goes e source zone (.between s) (.between out.state)

/-- Things are done in a duel, and all the while the copy lies in the zone and the turn is the
same. -/
def Lingers (e : Engine) (source : InstanceId) (zone : ZoneName) : Moment → Moment → Prop :=
  Relation.ReflTransGen fun m m' => e.Goes source zone m m' ∧
    (m'.state.stateIn? source zone).isSome = true ∧ m'.state.turn = m.state.turn

/-- **Within a turn the notes go over** on a copy that lies in the zone before and after. -/
theorem Goes.carries (he : e.LetsStay source zone) (hm : m.LetsStay source zone)
    (hs : m.state.board.Sound) (h : e.Goes source zone m m') (hturn : m'.state.turn = m.state.turn)
    (hf : m.state.stateIn? source zone = some f) (hg : m'.state.stateIn? source zone = some g) :
    m'.LetsStay source zone ∧ m'.state.board.Sound ∧ f.Carries g := by
  cases h with
  | step hprebuilt hmove hrun =>
    obtain ⟨hs', -, hstate⟩ := hprebuilt.stays hmove _ _ _ hrun hs
    obtain ⟨f', hf', hcarries⟩ := hstate g hg
    obtain rfl := Option.some.inj (hf'.symm.trans hf)
    exact ⟨trivial, hs', hcarries⟩
  | does hdoes =>
    obtain ⟨hstays, hs', hfate⟩ := hdoes.fate he hm hs
    refine ⟨hstays, hs', ?_⟩
    cases hfate with
    | passed _ hpasses =>
      obtain ⟨-, -, hstate⟩ := hpasses hs
      rcases hstate g hg with ⟨f', hf', hcarries⟩ | ⟨hnone, -⟩
      · obtain rfl := Option.some.inj (hf'.symm.trans hf)
        exact hcarries
      · rw [hnone] at hf
        cases hf
    | placed _ _ hnone =>
      rw [hnone] at hf
      cases hf
    | begun _ hbegun => exact absurd hturn hbegun

/-- **A record stays** while the copy lies in the zone and the turn is the same. -/
theorem Lingers.hasActivated (he : e.LetsStay source zone) (hm : m.LetsStay source zone)
    (hs : m.state.board.Sound) (hlies : (m.state.stateIn? source zone).isSome = true)
    (hrecorded : m.state.hasActivated source effect = true) (h : e.Lingers source zone m m') :
    m'.state.hasActivated source effect = true := by
  -- along the way the copy lies in the zone with the record on it
  have hinvariant : m'.LetsStay source zone ∧ m'.state.board.Sound ∧
      ∃ f, m'.state.stateIn? source zone = some f ∧ f.hasActivated effect = true := by
    induction h with
    | refl =>
      obtain ⟨f, hf⟩ := Option.isSome_iff_exists.mp hlies
      exact ⟨hm, hs, f, hf, hasActivated_of_stateIn? hf effect ▸ hrecorded⟩
    | tail _ hstep ih =>
      obtain ⟨hm₁, hs₁, f, hf, hf_recorded⟩ := ih
      obtain ⟨hgoes, hlies₂, hturn⟩ := hstep
      obtain ⟨g, hg⟩ := Option.isSome_iff_exists.mp hlies₂
      obtain ⟨hm₂, hs₂, hcarries⟩ := hgoes.carries he hm₁ hs₁ hturn hf hg
      exact ⟨hm₂, hs₂, g, hg, hcarries.hasActivated hf_recorded⟩
  obtain ⟨-, -, f, hf, hf_recorded⟩ := hinvariant
  rw [hasActivated_of_stateIn? hf]
  exact hf_recorded

/-- **Which activations are recorded.** Whatever the effect and the rules are: on a snapshot that
passes the check, the first step of an activation that is allowed runs and leaves the source in a
zone on the field. The effect is recorded on the source, unless all copies of the card may use it
only once together and it was not recorded before. And a record stays: whatever steps, commands and
activations follow, with effects, triggers and rules that leave stays on the field alone, it is
there as long as the source lies in the zone and no turn begins. -/
theorem recorded_of_validate (he : ∀ zone, e.LetsStay source zone) {s : Snapshot}
    (hs : s.check = .ok ()) {effect : CardEffect}
    (hvalid : effect.validate e.book s source = .ok ()) :
    ∃ card first rest out, s.find? source = some card ∧
      effect.activationSteps s source = first :: rest ∧ first.run s [] = .ok out ∧
      (out.state.stateIn? source (effect.template.destination.getD card.location)).isSome = true ∧
      (out.state.hasActivated source effect.id = true ↔
        effect.once ≠ .card ∨ s.hasActivated source effect.id = true) ∧
      (out.state.hasActivated source effect.id = true → ∀ m m' : Moment, m.state = out.state →
        m.LetsStay source (effect.template.destination.getD card.location) →
        e.Lingers source (effect.template.destination.getD card.location) m m' →
        m'.state.hasActivated source effect.id = true) := by
  obtain ⟨⟨⟩, htemplate, -⟩ := bind_eq_ok.mp hvalid
  obtain ⟨card, out, hfind, hrun, hsound, hlies, hiff⟩ :=
    ActivationTemplate.hasActivated_activate_iff (Board.check_eq_ok_iff.mp hs) htemplate
  refine ⟨card, _, _, out, hfind, effect.activationSteps_eq hfind, hrun, hlies, hiff,
    fun hrecorded m m' hm hstays hlingers => ?_⟩
  rw [← hm] at hsound hlies hrecorded
  exact hlingers.hasActivated (he _) hstays hsound hlies hrecorded

/-- A main phase with Toon World in hand. -/
def toonWorldInHand : Snapshot :=
  { Sequencer.cardless with
    phase := .main
    board.hand :=
      [.new (Board.entryId 1) (.spell Passcode.toonWorld "Toon World" .continuous) .hand] }

/-- Each copy of Toon World may be activated once. The activation is recorded, and after the main
phase it still is. -/
theorem recorded_of_toon_world :
    let effect := CardEffect.new Passcode.toonWorld .continuousSpell .copy
    toonWorldInHand.check = .ok () ∧
      effect.validate (Library.engine {}).book toonWorldInHand (Board.entryId 1) = .ok () ∧
      ∃ first rest out next, effect.activationSteps toonWorldInHand (Board.entryId 1) =
          first :: rest ∧ first.run toonWorldInHand [] = .ok out ∧
        out.state.hasActivated (Board.entryId 1) effect.id = true ∧
        (Library.engine {}).Lingers (Board.entryId 1) .spellTrapZone (.between out.state)
          (.between next) ∧ next.phase = .ending ∧
        next.hasActivated (Board.entryId 1) effect.id = true := by
  intro effect
  have hvalid : effect.validate (Library.engine {}).book toonWorldInHand (Board.entryId 1) =
      .ok () := eq_ok_of_toOption (by decide +kernel)
  have he : ∀ zone, (Library.engine {}).LetsStay (Board.entryId 1) zone :=
    (filled_library (fun _ => False) {}).stocked.letsStay _
  obtain ⟨card, first, rest, out, -, hsteps, hrun, -, hiff, hstays⟩ :=
    recorded_of_validate he rfl hvalid
  have hrecorded := hiff.mpr (.inl (by decide))
  have hahead : ((effect.activationSteps toonWorldInHand (Board.entryId 1)).head?.bind fun first =>
      (first.run toonWorldInHand []).toOption.map fun out =>
        let next := out.state.advancePhase
        (next.phase, (next.stateIn? (Board.entryId 1) .spellTrapZone).isSome,
          decide (next.turn = out.state.turn))) = some (.ending, true, true) := by
    decide +kernel
  rw [hsteps, List.head?_cons, Option.bind_some, hrun] at hahead
  obtain ⟨hphase, hahead⟩ := Prod.mk.inj (Option.some.inj hahead)
  obtain ⟨hlies, hturn⟩ := Prod.mk.inj hahead
  have hlingers : (Library.engine {}).Lingers (Board.entryId 1) .spellTrapZone (.between out.state)
      (.between out.state.advancePhase) :=
    .single ⟨.does (.command (c := .advancePhase) rfl), hlies, of_decide_eq_true hturn⟩
  exact ⟨rfl, hvalid, first, rest, out, _, hsteps, hrun, hrecorded, hlingers, hphase,
    hstays hrecorded (.between out.state) _ rfl trivial hlingers⟩

/-- **An activation without a record.** All copies of Toon World together may be activated once: the
activation is allowed, the copy lies on the field, and the activation is not recorded on it. -/
theorem not_recorded_of_toon_world :
    let effect := CardEffect.new Passcode.toonWorld .continuousSpell .card
    toonWorldInHand.check = .ok () ∧
      effect.validate (Library.engine {}).book toonWorldInHand (Board.entryId 1) = .ok () ∧
      ∃ first rest out, effect.activationSteps toonWorldInHand (Board.entryId 1) = first :: rest ∧
        first.run toonWorldInHand [] = .ok out ∧
        (out.state.stateIn? (Board.entryId 1) .spellTrapZone).isSome = true ∧
        out.state.hasActivated (Board.entryId 1) effect.id = false := by
  intro effect
  have hvalid : effect.validate (Library.engine {}).book toonWorldInHand (Board.entryId 1) =
      .ok () := eq_ok_of_toOption (by decide +kernel)
  have hactivated : ((effect.activationSteps toonWorldInHand (Board.entryId 1)).head?.bind
      fun first => (first.run toonWorldInHand []).toOption.map fun out =>
        ((out.state.stateIn? (Board.entryId 1) .spellTrapZone).isSome,
          out.state.hasActivated (Board.entryId 1) effect.id)) = some (true, false) := by
    decide +kernel
  obtain ⟨first, hfirst, hactivated⟩ := Option.bind_eq_some_iff.mp hactivated
  obtain ⟨rest, hsteps⟩ := List.head?_eq_some_iff.mp hfirst
  obtain ⟨out, hrun, hactivated⟩ := Option.map_eq_some_iff.mp hactivated
  obtain ⟨hlies, hnot⟩ := Prod.mk.inj hactivated
  exact ⟨rfl, hvalid, first, rest, out, hsteps, eq_ok_of_toOption hrun, hlies, hnot⟩

end Engine

end SoloDuel
