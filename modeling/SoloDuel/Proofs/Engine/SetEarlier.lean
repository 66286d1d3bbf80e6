import SoloDuel.Proofs.Engine.Binding
import SoloDuel.Proofs.Engine.Turns
import SoloDuel.Proofs.Snapshot.SetCards
/-!
# Set in an earlier turn

A trap, and a quick-play spell on the field, can be activated only from where it lies set, and only
if nothing notes that it was placed this turn. That note is made after the move that sets the card,
goes at the end of the turn, and comes and goes with the field state. Over a whole duel it comes to
this: the card was set in an earlier turn and has lain set ever since.

* `Engine.sets_of_command`, `Engine.lawful_setsNothing` — what commands and activations set.
* `Engine.set?_of_does` — what lies set after a deed lay set before it, or was set by it.
* `SetSince`, `Engine.Run.exists_setSince` — what lies set was set by a command and has lain since.
* `Engine.set_earlier_of_ready` — the cards that have to wait a turn have waited.
-/

namespace SoloDuel

open Snapshot

namespace Snapshot

variable {s t : Snapshot} {id : InstanceId} {fresh : Bool}

/-- Drawing, destroying and deciding a duel set nothing. -/
theorem clears_setsNothing : Clears SetsNothing where
  trans := .trans
  spares := Spares.setsNothing
  decided := fun _ _ _ _ => setsNothing_of_board rfl rfl

/-- Going through the phases sets nothing, and within the turn leaves what is noted. -/
theorem Advanced.exists_set? (h : Advanced s t) (hs : s.board.Sound)
    (hset : t.set? id = some fresh) :
    ∃ before, s.set? id = some before ∧ (t.turn = s.turn → before = fresh) := by
  cases h with
  | within => exact ⟨fresh, hset, fun _ => rfl⟩
  | begun =>
    obtain ⟨-, before, hbefore⟩ := set?_of_beginTurn hs hset
    exact ⟨before, hbefore, fun hturn => absurd hturn s.turn_beginTurn_ne⟩

theorem Advanced.sound (h : Advanced s t) (hs : s.board.Sound) : t.board.Sound := by
  cases h with
  | within => exact hs
  | begun => exact (Change.turn s).leads.sound hs

/-- Marking a use sets nothing. -/
theorem setsNothing_mark (s : Snapshot) (source : InstanceId) (effect : EffectId)
    (once : OncePerTurn) : SetsNothing s (ActivationTemplate.mark s source effect once) := by
  have hmark : ∀ (state : FieldState) fresh, (state.markActivated effect).set? = some fresh →
      state.set? = some fresh := fun state fresh h => state.set?_markActivated effect ▸ h
  cases once with
  | unlimited => exact setsNothing_modifyField s source hmark
  | card => exact setsNothing_of_board rfl rfl
  | copy => exact (setsNothing_of_board rfl rfl).trans (setsNothing_modifyField _ source hmark)

end Snapshot

/-- A card that is put into play comes to lie face-up. -/
theorem ActivationTemplate.setsNothing_of_enterPlay {destination : Option ZoneName} {s : Snapshot}
    {card : CardInstance} {out : Outcome} (h : enterPlay destination s card = .ok out) :
    SetsNothing s out.state := by
  unfold enterPlay at h
  split at h
  · exact setsNothing_of_moveToField h (.inr rfl)
  · cases h
    exact .refl _ s
  · split at h
    · cases h
      exact .refl _ s
    · rw [flipFaceUp] at h
      split at h
      · cases h
      · split at h
        · cases h
          exact setsNothing_modifyField s _ fun _ _ h => by cases h
        · cases h

namespace Engine

variable {e : Engine} {s : Snapshot} {out : Outcome} {scripts : Script → Prop} {m m' : Moment}
  {d : Deed} {history : List Entry}

/-! ## Commands and activations -/

/-- **The one command that sets a card in the spell/trap zone.** -/
theorem sets_of_command (he : e.Stocked scripts) {c : Command} (hc : c.advances = false)
    (h : c.perform e s = .ok out) : Sets (fun id => c = .setSpellTrap id) s out.state := by
  cases c with
  | advancePhase | advanceTo => cases hc
  | drawForTurn | settle | evaluateVictory | destroy | applySelfDestruction =>
    have hbook : e.book.Replaces SetsNothing := he.replaces_spares.mono Spares.setsNothing
    exact (of_clearing clears_setsNothing hbook rfl h).sets
  | normalSummon | setMonster =>
    obtain ⟨id, placement, set, -, hset, hout⟩ := exists_of_summonsNormally rfl h
    rw [hout]
    have hmonster : SetsNothing s set.state :=
      (sets_of_setCard hset).mono fun other hother => by cases hother.2
    have hused : SetsNothing s set.state.useNormalSummon :=
      hmonster.trans (setsNothing_of_board rfl rfl)
    exact hused.sets
  | specialSummon =>
    obtain ⟨card, moved, -, -, hmove, hout⟩ := exists_of_specialSummon h
    rw [hout]
    exact (setsNothing_of_moveToField hmove (.inl (by decide))).sets
  | setSpellTrap id =>
    obtain ⟨card, -, -, hset⟩ := e.exists_of_setSpellTrap h
    refine (sets_of_setCard hset).mono ?_
    rintro other ⟨rfl, -⟩
    rfl

/-- The steps of an activation set nothing. -/
theorem lawful_setsNothing (he : e.Stocked scripts) {source : InstanceId}
    {category : EffectCategory} {q : Sequencer}
    (h : e.activate s source category = .ok (.ready q)) : q.Lawful SetsNothing s := by
  obtain ⟨card, effect, -, -, hlawful⟩ := he.exists_lawful_of_activate h
  refine hlawful _ Spares.setsNothing fun s chosen out hrun => ?_
  obtain ⟨c, entered, -, henter, hout⟩ := ActivationTemplate.exists_enterPlay_of_activate hrun
  rw [hout]
  exact (ActivationTemplate.setsNothing_of_enterPlay henter).trans (setsNothing_mark _ _ _ _)

/-- **What lies set after a deed lay set before it, or the deed set it.** Within the turn what is
noted on it stays. -/
theorem set?_of_does (he : e.Stocked scripts) (hm : m.Lawful SetsNothing) (hbinding : m.Binding)
    (hs : m.state.board.Sound) (h : e.Does m d m') :
    m'.state.board.Sound ∧ ∀ id fresh, m'.state.set? id = some fresh →
      (d = .command (.setSpellTrap id) ∧ fresh = true) ∨
        ∃ before, m.state.set? id = some before ∧
          (m'.state.turn = m.state.turn → before = fresh) := by
  obtain ⟨-, hupshot⟩ :=
    h.upshot (.refl _) .trans (fun _ _ _ _ hready => lawful_setsNothing he hready) hm
  cases hupshot with
  | @command c out hd hperform hstate =>
    rw [hd, hstate]
    cases hc : c.advances with
    | false =>
      obtain ⟨hsound, -, hset⟩ := sets_of_command he hc hperform hs
      refine ⟨hsound, fun id fresh hid => ?_⟩
      rcases hset id fresh hid with ⟨rfl, hfresh⟩ | hbefore
      · exact .inl ⟨rfl, hfresh⟩
      · exact .inr ⟨fresh, hbefore, fun _ => rfl⟩
    | true =>
      have hadvanced := advanced_of_advances hc hperform
      exact ⟨hadvanced.sound hs, fun id fresh hid => .inr (hadvanced.exists_set? hs hid)⟩
  | cancelled hd => exact absurd hd (h.binding he hbinding).2
  | related _ hrelated =>
    obtain ⟨hsound, -, hset⟩ := hrelated hs
    refine ⟨hsound, fun id fresh hid => .inr ⟨fresh, ?_, fun _ => rfl⟩⟩
    exact (hset id fresh hid).resolve_left fun hnot => hnot.1

end Engine

/-! ## Ever since -/

/-- The copy was set by a command of the history, which led to a moment, and lay set then and after
everything that was done since. -/
structure SetSince (id : InstanceId) (history : List Entry) (t : Moment) (after : List Entry) :
    Prop where
  split : ∃ before, history = before ++ ⟨.command (.setSpellTrap id), t⟩ :: after
  first : t.state.LiesSet id
  since : ∀ x ∈ after, x.state.LiesSet id

theorem SetSince.concat {id : InstanceId} {history after : List Entry} {t : Moment} {x : Entry}
    (h : SetSince id history t after) (hx : x.state.LiesSet id) :
    SetSince id (history ++ [x]) t (after ++ [x]) where
  split := by
    obtain ⟨before, rfl⟩ := h.split
    exact ⟨before, by simp⟩
  first := h.first
  since := by
    intro y hy
    rcases List.mem_append.mp hy with hy | hy
    · exact h.since y hy
    · obtain rfl := List.mem_singleton.mp hy
      exact hx

namespace Engine

variable {e : Engine} {s : Snapshot} {scripts : Script → Prop} {m : Moment} {deck : List CardId}
  {history : List Entry}

/-- A duel opens with nothing set. -/
theorem set?_of_newGame (h : e.newGame deck = .ok s) (id : InstanceId) : s.set? id = none := by
  refine Option.eq_none_iff_forall_not_mem.mpr fun fresh hset => ?_
  obtain ⟨card, hfind, hlocation, -⟩ := liesSet_of_set? hset
  obtain ⟨-, hcard⟩ := mem_zone_of_find? (opening_spec h).1 hfind
  have hempty : s.zone .spellTrapZone = [] := opening_zone_eq_nil h rfl
  rw [hlocation, hempty] at hcard
  cases hcard

/-- **What lies set was set by a command and has lain set ever since.** A turn has begun since, or
it is noted that the card was placed this turn. -/
theorem Run.exists_setSince (he : e.Stocked scripts) (hopening : e.newGame deck = .ok s)
    (h : e.Run s history m) :
    m.state.board.Sound ∧ ∀ id fresh, m.state.set? id = some fresh →
      ∃ t after, SetSince id history t after ∧
        ((∃ x ∈ after, x.state.turn ≠ t.state.turn) ∨
          fresh = true ∧ m.state.turn = t.state.turn) := by
  induction h with
  | start =>
    refine ⟨(opening_spec hopening).1, fun id fresh hset => ?_⟩
    rw [Moment.state, set?_of_newGame hopening] at hset
    cases hset
  | @does history m m' d hrun hdoes ih =>
    have hlawful := hrun.lawful (.refl _) .trans fun _ _ _ _ hready => lawful_setsNothing he hready
    obtain ⟨hsound, hset⟩ := set?_of_does he hlawful (hrun.binding he) ih.1 hdoes
    refine ⟨hsound, fun id fresh hid => ?_⟩
    have hlies : m'.state.LiesSet id := liesSet_of_set? hid
    rcases hset id fresh hid with ⟨rfl, hfresh⟩ | ⟨before, hbefore, hkept⟩
    · exact ⟨m', [], ⟨⟨history, rfl⟩, hlies, by simp⟩, .inr ⟨hfresh, rfl⟩⟩
    · obtain ⟨t, after, hsince, hwhen⟩ := ih.2 id before hbefore
      refine ⟨t, after ++ [⟨d, m'⟩], hsince.concat (x := ⟨d, m'⟩) hlies, ?_⟩
      rcases hwhen with ⟨x, hx, hturn⟩ | ⟨rfl, hturn⟩
      · exact .inl ⟨x, List.mem_append_left _ hx, hturn⟩
      · by_cases hsame : m'.state.turn = m.state.turn
        · exact .inr ⟨(hkept hsame).symm, hsame.trans hturn⟩
        · exact .inl ⟨⟨d, m'⟩, by simp, fun heq => hsame (heq.trans hturn.symm)⟩

/-- A card that has to wait a turn, and is not in the hand, passes the check of its location only
from where it lies set, with nothing noted. -/
theorem set?_of_checkLocation {t : ActivationTemplate} {card : CardInstance}
    (hzone : t.destination = some .spellTrapZone) (hwaits : t.waitsATurn = true)
    (hfield : t.isSpell = true → card.isOnField = true)
    (h : t.checkLocation s card = .ok ()) : card.set? = some false := by
  unfold ActivationTemplate.checkLocation at h
  rw [hzone] at h
  dsimp only at h
  cases hstate : card.field with
  | none =>
    simp only [hstate] at h
    split_ifs at h with hhand
    have hoff := hfield hhand.2
    simp [CardInstance.isOnField, hstate] at hoff
  | some state =>
    simp only [hstate] at h
    split_ifs at h with hset hnoted
    refine CardInstance.set?_eq_some_iff.mpr ⟨hset.1, state, hstate, ?_, ?_⟩
    · exact Bool.eq_false_iff.mpr hset.2
    · exact Bool.eq_false_iff.mpr fun hplaced => hnoted ⟨hwaits, hplaced⟩

/-- **Cards that have to wait a turn have waited.** Whatever commands and activations have been
carried out since the opening: an effect of a trap, or of a quick-play spell that is on the field,
is ready only if its card lies set, was set by the command that does so, has lain set ever since,
and a turn has begun since. -/
theorem set_earlier_of_ready (he : e.Filled scripts) (hopening : e.newGame deck = .ok s)
    (h : e.Run s history m) {source : InstanceId} {category : EffectCategory} {q : Sequencer}
    {effect : CardEffect} (hready : e.activate m.state source category = .ok (.ready q))
    (heffect : e.effectOf m.state source category = .ok effect)
    (htemplate : effect.template = .normalTrap ∨ effect.template = .quickPlaySpell ∧
      ∃ card, m.state.find? source = some card ∧ card.isOnField = true) :
    m.state.LiesSet source ∧ ∃ t after, SetSince source history t after ∧
      ∃ x ∈ after, x.state.turn ≠ t.state.turn := by
  obtain ⟨other, hother, hvalid, -⟩ := activate_eq_ready_iff.mp hready
  obtain rfl : effect = other := Except.ok.inj (heffect.symm.trans hother)
  obtain ⟨⟨⟩, hvalid, -⟩ := bind_eq_ok.mp hvalid
  obtain ⟨-, card, hfind, -, -, -, hlocation, -⟩ := ActivationTemplate.of_validate hvalid
  have hset : m.state.set? source = some false := by
    refine Option.bind_eq_some_iff.mpr ⟨card, hfind, ?_⟩
    rcases htemplate with htrap | ⟨hspell, c, hc, hfield⟩
    · rw [htrap] at hlocation
      exact set?_of_checkLocation rfl rfl (by rintro ⟨⟩) hlocation
    · rw [hspell] at hlocation
      obtain rfl : card = c := Option.some.inj (hfind.symm.trans hc)
      exact set?_of_checkLocation rfl rfl (fun _ => hfield) hlocation
  obtain ⟨-, hsince⟩ := h.exists_setSince he.stocked hopening
  obtain ⟨t, after, hsince, hturn | ⟨hfresh, -⟩⟩ := hsince source false hset
  · exact ⟨liesSet_of_set? hset, t, after, hsince, hturn⟩
  · cases hfresh

/-- A trap that was set in the first turn is ready in the second, and this is how it got there. -/
theorem set_earlier_with_jar_of_greed :
    ∃ s t history, (Library.engine unshuffledThree).newGame oneOfEach = .ok s ∧
      (Library.engine unshuffledThree).Run s history (.between t) ∧ t.turn = 2 ∧
      (∃ q, (Library.engine unshuffledThree).activate t (Board.entryId 2) .activation =
        .ok (.ready q)) ∧
      t.LiesSet (Board.entryId 2) ∧ ∃ u after, SetSince (Board.entryId 2) history u after ∧
        ∃ x ∈ after, x.state.turn ≠ u.state.turn := by
  have hrun : (((Library.engine unshuffledThree).newGame oneOfEach).toOption.bind fun s =>
      ((Library.engine unshuffledThree).performEach [.advanceTo .main,
        .setSpellTrap (Board.entryId 2), .advanceTo .draw] s).toOption.bind fun t =>
          ((Library.engine unshuffledThree).effectOf t (Board.entryId 2)
            .activation).toOption.bind fun effect =>
              (effect.validate (Library.engine unshuffledThree).book t
                (Board.entryId 2)).toOption.map fun _ => (effect.template, t.turn)) =
      some (.normalTrap, 2) := by
    decide +kernel
  obtain ⟨s, hopening, hrun⟩ := Option.bind_eq_some_iff.mp hrun
  obtain ⟨t, hcommands, hrun⟩ := Option.bind_eq_some_iff.mp hrun
  obtain ⟨effect, heffect, hrun⟩ := Option.bind_eq_some_iff.mp hrun
  obtain ⟨⟨⟩, hvalid, hrun⟩ := Option.map_eq_some_iff.mp hrun
  obtain ⟨htemplate, hturn⟩ := Prod.mk.inj hrun
  obtain ⟨history, hhistory⟩ := Run.start.commands (eq_ok_of_toOption hcommands)
  have hready := activate_eq_ready_iff.mpr
    ⟨effect, eq_ok_of_toOption heffect, eq_ok_of_toOption hvalid, rfl⟩
  exact ⟨s, t, _, eq_ok_of_toOption hopening, hhistory, hturn, ⟨_, hready⟩,
    set_earlier_of_ready (filled_library (fun _ => False) unshuffledThree)
      (eq_ok_of_toOption hopening) hhistory hready (eq_ok_of_toOption heffect) (.inl htemplate)⟩

end Engine

end SoloDuel
