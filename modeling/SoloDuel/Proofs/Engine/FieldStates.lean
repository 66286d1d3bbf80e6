import SoloDuel.Proofs.Engine.Steps
import SoloDuel.Proofs.Engine.Commands
import SoloDuel.Proofs.Snapshot.Opening
/-!
# What holds of every field state

Besides counting, only five things are done to field state: it is made afresh when a card comes onto
the field, it is noted that the card was placed this turn, the card is turned face-up, an effect is
marked as activated, and a turn begins. A property that these keep is kept by everything that counts
no counters.

* `FieldState.Lasting` — properties of field states that the five keep.
* `Snapshot.EachField` — a property of every field state on a sound board.
* `EachField.instruction`, `EachField.activate` — the steps of effects and activations.
* `EachField.command` — commands, given what destruction does.
* `eachField_of_newGame` — a duel opens without field states.
-/

namespace SoloDuel

/-- A property of field states, which may depend on the species, that holds of fresh ones and lasts
through all that is done to them but counting. -/
structure FieldState.Lasting (P : CardId → FieldState → Prop) : Prop where
  fresh : ∀ (card : CardId) (placement : Placement), P card placement.fresh
  placed : ∀ {card : CardId} {f : FieldState}, P card f → P card { f with placedThisTurn := true }
  faceUp : ∀ {card : CardId} {f : FieldState}, P card f → P card { f with face := .up }
  markActivated : ∀ {card : CardId} {f : FieldState} (effect : EffectId), P card f →
    P card (f.markActivated effect)
  resetForTurn : ∀ {card : CardId} {f : FieldState}, P card f → P card f.resetForTurn

namespace Snapshot

variable {P : CardId → FieldState → Prop} {s t : Snapshot} {id : InstanceId} {card : CardInstance}
  {out : Outcome}

/-- The board is sound, and every field state has a property. -/
structure EachField (P : CardId → FieldState → Prop) (s : Snapshot) : Prop where
  sound : s.board.Sound
  fields : ∀ {id : InstanceId} {c : CardInstance} {f : FieldState}, s.find? id = some c →
    c.field = some f → P c.cardId f

namespace EachField

theorem of_board_eq (h : s.EachField P) (hboard : t.board = s.board) : t.EachField P := by
  have hfind : ∀ id, t.find? id = s.find? id := fun id => by rw [find?, find?, hboard]
  exact ⟨hboard ▸ h.sound, fun hc hfield => h.fields ((hfind _).symm.trans hc) hfield⟩

/-- Field states are changed all over the board. -/
theorem of_mapFields (h : s.EachField P) {g : InstanceId → FieldState → FieldState}
    (hboard : t.board = s.board.mapFields g) (hg : ∀ id card f, P card f → P card (g id f)) :
    t.EachField P := by
  refine ⟨hboard ▸ h.sound.mapFields g, fun {id c f} hc hfield => ?_⟩
  rw [find?, hboard, Board.find?_mapFields] at hc
  obtain ⟨before, hbefore, rfl⟩ := Option.map_eq_some_iff.mp hc
  obtain ⟨state, hstate, rfl⟩ := Option.map_eq_some_iff.mp hfield
  exact hg id before.cardId state (h.fields hbefore hstate)

/-- The field state of one copy is changed. What the change needs to know about the copy can be read
off the snapshot. -/
theorem modifyField (h : s.EachField P) (id : InstanceId) {g : FieldState → FieldState}
    (hg : ∀ c f, s.find? id = some c → c.field = some f → P c.cardId f → P c.cardId (g f)) :
    (s.modifyField id g).EachField P := by
  refine ⟨sound_modifyField h.sound id g, fun {other c f} hc hfield => ?_⟩
  rw [find?_modifyField h.sound.distinct] at hc
  split at hc
  · rename_i hid
    obtain ⟨before, hbefore, rfl⟩ := Option.map_eq_some_iff.mp hc
    obtain ⟨state, hstate, rfl⟩ := Option.map_eq_some_iff.mp hfield
    exact hg before state (hid ▸ hbefore) hstate (h.fields hbefore hstate)
  · exact h.fields hc hfield

theorem settleResult (h : s.EachField P) (book : RuleBook) (drawDue : Bool) :
    (book.settleResult s drawDue).EachField P := by
  unfold RuleBook.settleResult
  dsimp only
  split
  · exact h.of_board_eq rfl
  · exact h

/-- Self-destruction is a row of destructions. -/
theorem applySelfDestruction (h : s.EachField P) {book : RuleBook}
    (hdestroy : ∀ {s id out}, s.EachField P → book.destroy s id = .ok out → out.state.EachField P)
    (hself : book.applySelfDestruction s = .ok out) : out.state.EachField P := by
  refine foldlM_induction (P := fun out : Outcome => out.state.EachField P) ?_ h hself
  intro before id after hbefore hstep
  obtain ⟨next, hdestroyed, hafter⟩ := bind_eq_ok.mp hstep
  cases hafter
  have hnext : next.state.EachField P := hdestroy hbefore hdestroyed
  exact hnext

section Lasting

variable (hP : FieldState.Lasting P)

include hP

/-! ## Operations -/

theorem moved (h : s.EachField P) (hfind : s.find? id = some card) (target : ZoneName)
    (placement : Placement) : (s.moved card target placement).EachField P := by
  refine ⟨sound_moved h.sound hfind target placement, fun {other c f} hc hfield => ?_⟩
  have hcard := (mem_zone_of_find? h.sound hfind).2
  rw [find?, Snapshot.moved, Board.find?_relocated h.sound.distinct hcard] at hc
  split at hc
  · obtain rfl := Option.some.inj hc
    simp only [CardInstance.movedTo] at hfield
    split at hfield
    · obtain rfl := Option.some.inj hfield
      exact hP.fresh card.cardId placement
    · cases hfield
  · exact h.fields hc hfield

theorem relocate (h : s.EachField P) {target origin : ZoneName} {placement : Placement}
    (hmove : s.relocate id target placement = .ok (origin, t)) : t.EachField P := by
  obtain ⟨card, hfind, -, -, rfl⟩ := (relocate_eq_ok_iff h.sound.distinct).mp hmove
  exact h.moved hP hfind target placement

theorem moveCard (h : s.EachField P) {target : ZoneName} {placement : Placement}
    (hmove : s.moveCard id target placement = .ok out) : out.state.EachField P := by
  obtain ⟨⟨origin, next⟩, hrelocate, hout⟩ := bind_eq_ok.mp hmove
  cases hout
  exact h.relocate hP hrelocate

theorem moveToField (h : s.EachField P) {target : ZoneName} {placement : Placement}
    (hmove : s.moveToField id target placement = .ok out) : out.state.EachField P := by
  rw [Snapshot.moveToField] at hmove
  split at hmove
  · exact h.moveCard hP hmove
  · cases hmove

theorem setCard (h : s.EachField P) {target : ZoneName} {placement : Placement}
    (hset : s.setCard id target placement = .ok out) : out.state.EachField P := by
  obtain ⟨moved, hmove, hout⟩ := bind_eq_ok.mp hset
  cases hout
  exact (h.moveToField hP hmove).modifyField id fun _ _ _ _ hf => hP.placed hf

theorem flipFaceUp (h : s.EachField P) (hflip : s.flipFaceUp id = .ok out) :
    out.state.EachField P := by
  rw [Snapshot.flipFaceUp] at hflip
  split at hflip
  · cases hflip
  · split at hflip
    · cases hflip
      exact h.modifyField id fun _ _ _ _ hf => hP.faceUp hf
    · cases hflip

/-- What brings nothing onto the field and counts nothing. -/
theorem spares (h : s.EachField P) (hst : Spares (fun _ => False) s t) : t.EachField P := by
  induction hst with
  | refl => exact h
  | tail _ hstep ih =>
    cases hstep with
    | withdrawn hmove => exact ih.relocate hP hmove
    | counted _ _ htouched => exact htouched.elim
    | shuffled =>
      exact ⟨sound_shuffle ih.sound, fun hc hfield =>
        ih.fields ((shuffle_find? ih.sound _).symm.trans hc) hfield⟩
    | life => exact ih.of_board_eq rfl

theorem addToHand (h : s.EachField P) {origin : ZoneName} (hadd : s.addToHand id origin = .ok out) :
    out.state.EachField P := by
  rw [Snapshot.addToHand] at hadd
  split at hadd
  · exact h.spares hP (spares_of_search _ hadd)
  · obtain ⟨-, -, hrest⟩ := bind_eq_ok.mp hadd
    obtain ⟨⟨recorded, next⟩, hmove, hout⟩ := bind_eq_ok.mp hrest
    cases hout
    exact h.relocate hP hmove

/-! ## Turns -/

theorem beginTurn (h : s.EachField P) : s.beginTurn.EachField P :=
  h.of_mapFields (board_beginTurn h.sound) fun _ _ _ hf => hP.resetForTurn hf

theorem advancePhase (h : s.EachField P) : s.advancePhase.EachField P := by
  unfold Snapshot.advancePhase
  split
  · exact h
  · split
    · exact (h.beginTurn hP).of_board_eq rfl
    · exact h.of_board_eq rfl

theorem advanceWithin (h : s.EachField P) (target : Phase) (n : Nat) :
    (s.advanceWithin target n).EachField P := by
  induction n generalizing s with
  | zero => exact h
  | succ n ih =>
    unfold Snapshot.advanceWithin
    split
    · exact h
    · exact ih (h.advancePhase hP)

/-! ## Activations -/

theorem mark (h : s.EachField P) (source : InstanceId) (effect : EffectId) (once : OncePerTurn) :
    (ActivationTemplate.mark s source effect once).EachField P := by
  rcases ActivationTemplate.board_mark h.sound source effect once with hboard | hboard
  · exact h.of_board_eq hboard
  · refine h.of_mapFields hboard fun other card f hf => ?_
    unfold Board.only
    split
    · exact hP.markActivated effect hf
    · exact hf

theorem enterPlay (h : s.EachField P) {destination : Option ZoneName}
    (henter : ActivationTemplate.enterPlay destination s card = .ok out) :
    out.state.EachField P := by
  unfold ActivationTemplate.enterPlay at henter
  split at henter
  · exact h.moveToField hP henter
  · cases henter
    exact h
  · split at henter
    · cases henter
      exact h
    · exact h.flipFaceUp hP henter

/-- The first step of an activation. -/
theorem activate (h : s.EachField P) {template : ActivationTemplate} {name : String}
    {source : InstanceId} {effect : EffectId} {once : OncePerTurn} {chosen : List InstanceId}
    (hrun : (template.activate name source effect once).run s chosen = .ok out) :
    out.state.EachField P := by
  obtain ⟨card, entered, -, henter, hout⟩ :=
    ActivationTemplate.exists_enterPlay_of_activate hrun
  rw [hout]
  exact (h.enterPlay hP henter).mark hP source effect once

/-- **What effects do**, but for adding counters, given what removing them does. -/
theorem instruction (h : s.EachField P) {i : Instruction} (hi : i.kind ≠ .addCounters)
    (hremove : ∀ {id kind amount out}, s.removeCounters id kind amount = .ok out →
      out.state.EachField P) {source : InstanceId} {chosen : List InstanceId}
    (hrun : (i.step source).run s chosen = .ok out) : out.state.EachField P := by
  cases i with
  | draw | drawUntil => exact h.spares hP (spares_of_draw _ hrun)
  | discard => exact h.spares hP (spares_of_discard _ hrun)
  | search =>
    cases chosen with
    | nil => cases hrun
    | cons id rest => exact h.spares hP (spares_of_search _ hrun)
  | addToHand =>
    cases chosen with
    | nil => cases hrun
    | cons id rest => exact h.addToHand hP hrun
  | gainLife | loseLife =>
    cases hrun
    exact h.of_board_eq rfl
  | addCounters => exact absurd rfl hi
  | removeCounters => exact hremove hrun
  | sendSourceToGraveyard => exact h.moveCard hP hrun

/-! ## Commands -/

theorem drawForTurn (h : s.EachField P) {e : Engine} (hdraw : e.drawForTurn s = .ok t) :
    t.EachField P := by
  unfold Engine.drawForTurn at hdraw
  split at hdraw
  · cases hdraw
  · split at hdraw
    · cases hdraw
    · split at hdraw
      · cases hdraw
        exact h.settleResult e.book true
      · obtain ⟨drawn, hdrawn, hout⟩ := bind_eq_ok.mp hdraw
        cases hout
        exact (h.spares hP (spares_of_draw _ hdrawn)).settleResult e.book false

theorem summonFromHand (h : s.EachField P) {e : Engine} {kind : SummonKind}
    {placement : Placement} {verb : String}
    (hsummon : e.summonFromHand s id kind placement verb = .ok out) : out.state.EachField P := by
  obtain ⟨card, set, -, -, -, hset, hout⟩ := Engine.exists_of_summonFromHand hsummon
  rw [hout]
  exact (h.setCard hP hset).of_board_eq rfl

/-- **What commands do**, given what destruction does. -/
theorem command (h : s.EachField P) {e : Engine}
    (hdestroy : ∀ {s id out}, s.EachField P → e.book.destroy s id = .ok out →
      out.state.EachField P) {c : Command} (hperform : c.perform e s = .ok out) :
    out.state.EachField P := by
  cases c with
  | advancePhase =>
    cases hperform
    exact h.advancePhase hP
  | advanceTo phase =>
    cases hperform
    exact h.advanceWithin hP phase 4
  | drawForTurn =>
    obtain ⟨t, hdraw, rfl⟩ := Engine.exists_of_map_eq_ok hperform
    exact h.drawForTurn hP hdraw
  | settle =>
    obtain ⟨t, hsettle, rfl⟩ := Engine.exists_of_map_eq_ok hperform
    obtain ⟨settled, hsettled, hout⟩ := bind_eq_ok.mp hsettle
    cases hout
    exact (h.applySelfDestruction hdestroy hsettled).settleResult e.book false
  | evaluateVictory drawDue =>
    cases hperform
    exact h.settleResult e.book drawDue
  | destroy => exact hdestroy h hperform
  | applySelfDestruction => exact h.applySelfDestruction hdestroy hperform
  | normalSummon | setMonster => exact h.summonFromHand hP hperform
  | specialSummon =>
    obtain ⟨card, moved, -, -, hmove, hout⟩ := Engine.exists_of_specialSummon hperform
    rw [hout]
    exact h.moveToField hP hmove
  | setSpellTrap =>
    obtain ⟨card, -, -, hset⟩ := e.exists_of_setSpellTrap hperform
    exact h.setCard hP hset

end Lasting

end EachField

end Snapshot

/-- A duel opens with nothing on the field. -/
theorem Engine.eachField_of_newGame {P : CardId → FieldState → Prop} {e : Engine}
    {deck : List CardId} {s : Snapshot} (h : e.newGame deck = .ok s) : s.EachField P := by
  have hsound : s.board.Sound := (Snapshot.opening_spec h).1
  refine ⟨hsound, fun {id c f} hc hfield => ?_⟩
  have hmem := (Snapshot.mem_zone_of_find? hsound hc).2
  have hname : c.location.isOnField = true := by
    rw [← hsound.fielded c.location c hmem, CardInstance.isOnField, hfield]
    rfl
  rw [Snapshot.opening_zone_eq_nil h hname] at hmem
  cases hmem

end SoloDuel
