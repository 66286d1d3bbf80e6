import SoloDuel.Library.Effects
import SoloDuel.Proofs.Activation.EnterPlay
import SoloDuel.Proofs.Sequencer.Protocol
/-!
# What an allowed activation does

The checks of a template and the step that puts the card into play are written apart from each
other. They fit: where the checks pass, every step of the activation runs, the source lies face-up
where it belongs, its use is recorded, and no other card has noticed.

* `Snapshot.SameOthers` — every other card is where and as it was, in the same order.
* `Snapshot.Activated` — what an activation leaves behind.
* `Step.runEach` — running steps one after another.
* `CardEffect.activationSteps_run_of_validate` — an activation that its template allows.
-/

namespace SoloDuel

namespace Snapshot

variable {s t u : Snapshot} {source : InstanceId} {zone : ZoneName} {card : CardInstance}

/-! ## The other cards -/

/-- Every card but one is where and as it was, in the same order. -/
def SameOthers (source : InstanceId) (s t : Snapshot) : Prop :=
  ∀ name, (t.zone name).filter (·.id ≠ source) = (s.zone name).filter (·.id ≠ source)

theorem SameOthers.refl (source : InstanceId) (s : Snapshot) : SameOthers source s s :=
  fun _ => rfl

theorem SameOthers.trans (h₁ : SameOthers source s t) (h₂ : SameOthers source t u) :
    SameOthers source s u := fun name => (h₂ name).trans (h₁ name)

theorem SameOthers.of_board_eq (h : t.board = s.board) : SameOthers source s t := by
  intro name
  rw [zone, zone, h]

theorem sameOthers_moved (s : Snapshot) (card : CardInstance) (target : ZoneName)
    (placement : Placement) : SameOthers card.id s (s.moved card target placement) := by
  intro name
  have hzone : (s.moved card target placement).zone name =
      if name = target then
        (s.zone name).filter (·.id ≠ card.id) ++ [card.movedTo target placement]
      else (s.zone name).filter (·.id ≠ card.id) :=
    Board.zone_relocated s.board card target placement name
  rw [hzone]
  split_ifs
  · simp [CardInstance.movedTo]
  · simp

/-- A change of the source's field state is no change of another card. -/
theorem sameOthers_of_mapFields {g : FieldState → FieldState}
    (h : t.board = s.board.mapFields (Board.only source g)) : SameOthers source s t := by
  intro name
  have hzone : t.zone name =
      (s.zone name).map fun c => if c.id = source then c.mapField g else c := by
    rw [zone, h, Board.zone_mapFields]
    exact List.map_congr_left fun c _ => Board.mapField_only source g c
  rw [hzone]
  induction s.zone name with
  | nil => rfl
  | cons c rest ih =>
    by_cases hid : c.id = source
    · have hmapped : (c.mapField g).id = source := hid
      simpa [hid, hmapped] using ih
    · simpa [hid] using ih

/-! ## What an activation leaves behind -/

/-- The source has come into play and its use is recorded. No other card and nothing besides the
board and the marks of use has changed. -/
structure Activated (s : Snapshot) (source : InstanceId) (zone : ZoneName) (effect : EffectId)
    (once : OncePerTurn) (t : Snapshot) : Prop extends InPlay source zone t where
  cardUsed : once = .card → effect.card ∈ t.usedCards
  effectUsed : once = .copy → (source, effect) ∈ t.usedEffects
  others : SameOthers source s t
  rest : t = { s with board := t.board, usedCards := t.usedCards, usedEffects := t.usedEffects }

end Snapshot

namespace ActivationTemplate

open Snapshot

variable {t : ActivationTemplate} {book : RuleBook} {s u : Snapshot} {source : InstanceId}
  {card : CardInstance} {effect : EffectId} {once : OncePerTurn} {out : Outcome}

/-- Getting into play moves or turns over no other card and changes the board only. -/
theorem of_enterPlay {destination : Option ZoneName} (hs : s.board.Sound)
    (hfind : s.find? card.id = some card) (h : enterPlay destination s card = .ok out) :
    out.state.board.Sound ∧ SameOthers card.id s out.state ∧
      out.state = { s with board := out.state.board } := by
  unfold enterPlay at h
  split at h
  · -- off the field the card is moved
    rw [moveToField] at h
    split at h
    · obtain ⟨⟨origin, next⟩, hmove, hout⟩ := bind_eq_ok.mp h
      cases hout
      obtain ⟨c, hc, -, -, rfl⟩ := (relocate_eq_ok_iff hs.distinct).mp hmove
      rw [hfind] at hc
      cases hc
      exact ⟨sound_moved hs hfind _ _, sameOthers_moved s card _ _, rfl⟩
    · cases h
  · cases h
    exact ⟨hs, .refl card.id s, rfl⟩
  · -- on the field it is turned face-up
    rename_i hfield
    split at h
    · cases h
      exact ⟨hs, .refl card.id s, rfl⟩
    · simp only [flipFaceUp, hfind, if_pos hfield] at h
      cases h
      rw [modifyField_eq hs.distinct]
      exact ⟨hs.mapFields _, sameOthers_of_mapFields rfl, rfl⟩

theorem sameOthers_mark (hs : s.board.Sound) (source : InstanceId) (effect : EffectId)
    (once : OncePerTurn) : SameOthers source s (mark s source effect once) := by
  rcases board_mark hs source effect once with h | h
  · exact .of_board_eq h
  · exact sameOthers_of_mapFields h

/-- What the first step of an activation changes, wherever it gets the source to. -/
theorem activated_of_activate {zone : ZoneName} {name : String} (hs : s.board.Sound)
    (hfind : s.find? source = some card)
    (hrun : (t.activate name source effect once).run s [] = .ok out)
    (hin : InPlay source zone out.state) : Activated s source zone effect once out.state := by
  obtain ⟨rfl, -⟩ := mem_zone_of_find? hs hfind
  simp only [activate, hfind] at hrun
  obtain ⟨entered, henter, hout⟩ := bind_eq_ok.mp hrun
  cases hout
  obtain ⟨hsound, hothers, hrest⟩ := of_enterPlay hs hfind henter
  refine ⟨hin, ?_, ?_, hothers.trans (sameOthers_mark hsound card.id effect once), ?_⟩
  · rintro rfl
    exact List.mem_insert_self
  · rintro rfl
    exact List.mem_insert_self
  · dsimp only
    cases once <;> rw [hrest] <;> rfl

/-- **The first step of an allowed activation.** It runs without a choice, tells no event and leaves
the source in play: in the zone of the template or, for an ignition effect, where it was. -/
theorem exists_activated_of_validate (hs : s.board.Sound)
    (hvalid : t.validate book s source effect once = .ok ()) :
    ∃ card u message, s.find? source = some card ∧
      (t.activate card.name source effect once).run s [] =
        .ok { state := u, message := message } ∧
      Activated s source (t.destination.getD card.location) effect once u := by
  obtain ⟨-, card, hfind, -, -, -, hlocation, -⟩ := of_validate hvalid
  have hentered : ∃ u message, (t.activate card.name source effect once).run s [] =
      .ok { state := u, message := message } ∧
        InPlay source (t.destination.getD card.location) u := by
    cases hzone : t.destination with
    | some zone =>
      obtain ⟨u, message, hrun, hentered⟩ :=
        activate_spec hs hfind hzone hlocation card.name effect once
      exact ⟨u, message, hrun, hentered.toInPlay⟩
    | none =>
      obtain rfl : t = .ignition := by cases t <;> first | rfl | cases hzone
      obtain ⟨hrun, hin⟩ := activate_spec_ignition hs hfind hlocation card.name effect once
      exact ⟨_, none, hrun, hin⟩
  obtain ⟨u, message, hrun, hin⟩ := hentered
  exact ⟨card, u, message, hfind, hrun, activated_of_activate hs hfind hrun hin⟩

end ActivationTemplate

/-! ## All steps of an activation -/

/-- Runs steps one after another without choosing cards. Gives the snapshot after them and what
happened on the way. -/
def Step.runEach : List Step → Snapshot → Except Refusal (Snapshot × List Event)
  | [], s => .ok (s, [])
  | step :: rest, s => do
    let out ← step.run s []
    let (t, events) ← runEach rest out.state
    return (t, out.events ++ events)

namespace CardEffect

open Snapshot

variable {e : CardEffect} {book : RuleBook} {s : Snapshot} {source : InstanceId}

/-- **Allowed activations succeed.** Whatever the rules and the effect are: on a snapshot that
passes the check, the steps of an activation that its template allows all run. The source is face-up
in the zone of the template or, for an ignition effect, where it was; its use is recorded as its
restriction counts; the one event announces it; and every other card is where and as it was. -/
theorem activationSteps_run_of_validate (hs : s.check = .ok ())
    (hvalid : e.template.validate book s source e.id e.once = .ok ()) :
    ∃ card t, s.find? source = some card ∧
      Step.runEach (e.activationSteps s source) s = .ok (t, [e.template.event e.id source]) ∧
      Activated s source (e.template.destination.getD card.location) e.id e.once t := by
  obtain ⟨card, t, message, hfind, hrun, hactivated⟩ :=
    ActivationTemplate.exists_activated_of_validate (Board.check_eq_ok_iff.mp hs) hvalid
  refine ⟨card, t, hfind, ?_, hactivated⟩
  rw [e.activationSteps_eq hfind, Step.runEach, hrun]
  rfl

/-- A main phase with two copies of Card of Demise in hand. -/
def twoDemises : Snapshot :=
  let species := .spell Passcode.cardOfDemise "Card of Demise" .normal
  { Sequencer.cardless with
    phase := .main
    board := { hand := [.new ⟨1⟩ species .hand, .new ⟨2⟩ species .hand] } }

/-- The first copy goes to the field and marks the card as used; the second stays in hand. -/
theorem activationSteps_run_of_card_of_demise :
    twoDemises.check = .ok () ∧ ∃ card t, twoDemises.find? ⟨1⟩ = some card ∧
      Step.runEach (Library.cardOfDemiseEffect.activationSteps twoDemises ⟨1⟩) twoDemises =
        .ok (t, [.spellActivated Passcode.cardOfDemise ⟨1⟩]) ∧
      Activated twoDemises ⟨1⟩ .spellTrapZone Library.cardOfDemiseEffect.id .card t := by
  have hvalid : Library.cardOfDemiseEffect.template.validate .empty twoDemises ⟨1⟩
      Library.cardOfDemiseEffect.id Library.cardOfDemiseEffect.once = .ok () := rfl
  exact ⟨rfl, activationSteps_run_of_validate rfl hvalid⟩

end CardEffect

end SoloDuel
