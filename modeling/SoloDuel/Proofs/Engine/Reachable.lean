import SoloDuel.Proofs.Engine.Stock
import SoloDuel.Proofs.Snapshot.Opening
/-!
# The snapshots of a duel

A duel goes on from its opening by operations, commands and activations, in any order. Whatever is
done, the cards stay what they are: none is lost, none comes twice, and each keeps its species.

* `Engine.Reachable` — the snapshots of a duel.
* `exists_leads_of_reachable` — each comes of an opening by elementary changes.
* `cards_conserved_of_reachable` — none is lost, doubled or changed.
-/

namespace SoloDuel.Engine

open Snapshot

variable {e : Engine} {deck : List CardId} {s : Snapshot} {scripts : Script → Prop}

/-- The snapshots of a duel: the opening, and whatever an operation, a command or a run of an
activation makes of one. A run may be left at any point, and the snapshots its answers carry belong
to the duel as well. -/
inductive Reachable (e : Engine) (deck : List CardId) : Snapshot → Prop
  | opening {s : Snapshot} : e.newGame deck = .ok s → Reachable e deck s
  | operation {s : Snapshot} {o : Operation} {out : Outcome} : Reachable e deck s →
      o.perform s = .ok out → Reachable e deck out.state
  | command {s : Snapshot} {c : Command} {out : Outcome} : Reachable e deck s →
      c.perform e s = .ok out → Reachable e deck out.state
  | activation {s : Snapshot} {source : InstanceId} {category : EffectCategory}
      {q q' : Sequencer} {fuel : Nat} {calls : List SequencerCall} {log : CallLog} :
      Reachable e deck s → e.activate s source category = .ok (.ready q) →
      q.play fuel calls = some (q', log) → Reachable e deck q'.state
  | answer {s t : Snapshot} {source : InstanceId} {category : EffectCategory}
      {q q' : Sequencer} {fuel : Nat} {calls : List SequencerCall} {log : CallLog}
      {c : SequencerCall} {a : SequencerAnswer} :
      Reachable e deck s → e.activate s source category = .ok (.ready q) →
      q.play fuel calls = some (q', log) → (c, .ok a) ∈ log → a.state? = some t →
      Reachable e deck t

/-! ## Activations -/

theorem lawful_of_activate (he : e.Stocked scripts) {source : InstanceId}
    {category : EffectCategory} {q : Sequencer}
    (h : e.activate s source category = .ok (.ready q)) : q.Lawful Leads s := by
  obtain ⟨card, effect, hfind, hget, -, rfl⟩ := exists_effect_of_activate h
  have heffect : effect.Prebuilt := he.prebuilt_effect (Registry.mem_values_of_get hget)
  obtain ⟨rest, hsteps, hrest⟩ := CardEffect.exists_steps_eq heffect hfind
  refine ⟨?_, fun s event step hstep => ?_, rfl, .refl⟩
  · change ∀ step ∈ effect.steps s source, step.Respects Leads
    rw [hsteps, List.forall_mem_cons]
    exact ⟨ActivationTemplate.activate_respects _ _ _ _ _, fun step hstep =>
      (hrest step hstep).mono Handles.leads⟩
  · exact (he.respects_collect s event step hstep).mono Handles.leads

/-! ## The whole duel -/

/-- **Every snapshot of a duel comes of the opening by elementary changes.** -/
theorem exists_leads_of_reachable (he : e.Stocked scripts) (h : e.Reachable deck s) :
    ∃ s₀, e.newGame deck = .ok s₀ ∧ Leads s₀ s := by
  induction h with
  | opening hopening => exact ⟨_, hopening, .refl⟩
  | operation _ hperform ih =>
    obtain ⟨s₀, hopening, hleads⟩ := ih
    exact ⟨s₀, hopening, hleads.trans ((handles_of_operation hperform).leads)⟩
  | command _ hperform ih =>
    obtain ⟨s₀, hopening, hleads⟩ := ih
    have hbook : e.book.Replaces Leads := he.replaces_handles.mono Handles.leads
    exact ⟨s₀, hopening, hleads.trans (leads_of_command hbook hperform)⟩
  | activation _ hactivate hplay ih =>
    obtain ⟨s₀, hopening, hleads⟩ := ih
    have hlawful := Sequencer.lawful_of_play (fun _ => .refl) .trans
      (lawful_of_activate he hactivate) hplay
    exact ⟨s₀, hopening, hleads.trans hlawful.1.state⟩
  | answer _ hactivate hplay hmem hstate ih =>
    obtain ⟨s₀, hopening, hleads⟩ := ih
    have hlawful := Sequencer.lawful_of_play (fun _ => .refl) .trans
      (lawful_of_activate he hactivate) hplay
    exact ⟨s₀, hopening, hleads.trans (hlawful.2 _ _ _ hmem hstate)⟩

theorem sound_of_reachable (he : e.Stocked scripts) (h : e.Reachable deck s) : s.board.Sound := by
  obtain ⟨s₀, hopening, hleads⟩ := exists_leads_of_reachable he h
  exact hleads.sound (opening_spec hopening).1

/-- **Cards are conserved.** Every snapshot of a duel passes the check, holds the copies numbered
from 1 to the length of the deck list and no other, each in one place, and each copy is of the
species that the catalog gives for its entry. -/
theorem cards_conserved_of_reachable (he : e.Filled scripts) (h : e.Reachable deck s) :
    s.check = .ok () ∧ s.board.ids.Nodup ∧
      s.board.ids.Perm ((List.range deck.length).map Board.entryId) ∧
      ∀ i (hi : i < deck.length), ∃ card, s.find? (Board.entryId i) = some card ∧
        e.catalog.get deck[i] = .ok card.data := by
  obtain ⟨s₀, hopening, hleads⟩ := exists_leads_of_reachable he.stocked h
  obtain ⟨hsound₀, -, species, hspecies, hroster₀⟩ := opening_spec hopening
  obtain ⟨hsound, hroster⟩ := hleads.conserves hsound₀
  have hnumbered := hroster.trans hroster₀
  have hlength : deck.length = species.length := hspecies.length_eq
  refine ⟨Board.check_eq_ok_iff.mpr hsound, hsound.distinct, ?_, fun i hi => ?_⟩
  · rw [← Board.map_fst_roster, hlength, ← Board.map_fst_numbered]
    exact hnumbered.map Prod.fst
  · have hi' : i < species.length := hlength ▸ hi
    obtain ⟨card, hfind, hdata⟩ := find?_of_roster_perm hsound.distinct hnumbered hi'
    refine ⟨card, hfind, ?_⟩
    rw [hdata]
    exact hspecies.get hi hi'

/-! ## A duel with one activation -/

/-- The first main phase of a duel, and an activation that is ready then. -/
def firstReady (e : Engine) (deck : List CardId) (source : InstanceId) :
    Option (Snapshot × Sequencer) := do
  let s ← (e.newGame deck).toOption
  let a ← (e.activate (s.advanceTo .main) source .activation).toOption
  match a with
  | .ready q => some (s.advanceTo .main, q)
  | .refused _ => none

theorem eq_ok_of_toOption {ε α : Type} {x : Except ε α} {a : α} (h : x.toOption = some a) :
    x = .ok a := by
  cases x with
  | error => cases h
  | ok => exact congrArg Except.ok (Option.some.inj h)

theorem of_firstReady {source : InstanceId} {q : Sequencer}
    (h : e.firstReady deck source = some (s, q)) :
    e.Reachable deck s ∧ e.activate s source .activation = .ok (.ready q) := by
  obtain ⟨s₀, hopening, h⟩ := Option.bind_eq_some_iff.mp h
  obtain ⟨a, hactivate, h⟩ := Option.bind_eq_some_iff.mp h
  cases a with
  | refused => cases h
  | ready =>
    cases h
    exact ⟨.command (c := .advanceTo .main) (.opening (eq_ok_of_toOption hopening)) rfl,
      eq_ok_of_toOption hactivate⟩

/-- The deck keeps its order, so that it is known which card is in hand. -/
def unshuffled : DuelConfig := { openingHand := 1, shuffleOnStart := false }

def fourPots : List CardId := List.replicate 4 Passcode.potOfGreed

/-- With Pot of Greed played and two cards drawn, all four copies are still there. -/
theorem cards_conserved_after_pot_of_greed :
    ∃ s, (Library.engine unshuffled).Reachable fourPots s ∧ s.count .graveyard = 1 ∧
      s.count .hand = 2 ∧ s.check = .ok () ∧ s.board.ids.Nodup ∧
      s.board.ids.Perm ((List.range fourPots.length).map Board.entryId) ∧
      ∀ i (hi : i < fourPots.length), ∃ card, s.find? (Board.entryId i) = some card ∧
        (Library.engine unshuffled).catalog.get fourPots[i] = .ok card.data := by
  have hrun : ((firstReady (Library.engine unshuffled) fourPots (Board.entryId 3)).bind
      fun r => (r.2.play 20 [.start]).map fun r => (r.1.state.count .graveyard,
        r.1.state.count .hand)) = some (1, 2) := by
    decide +kernel
  obtain ⟨⟨s, q⟩, hready, hrun⟩ := Option.bind_eq_some_iff.mp hrun
  obtain ⟨⟨q', log⟩, hplay, hcounts⟩ := Option.map_eq_some_iff.mp hrun
  obtain ⟨hgraveyard, hhand⟩ := Prod.mk.inj hcounts
  obtain ⟨hreachable, hactivate⟩ := of_firstReady hready
  have hfilled : (Library.engine unshuffled).Filled fun _ => False := .library (.bare unshuffled)
  have hreachable' := Reachable.activation hreachable hactivate hplay
  exact ⟨q'.state, hreachable', hgraveyard, hhand,
    cards_conserved_of_reachable hfilled hreachable'⟩

end SoloDuel.Engine
