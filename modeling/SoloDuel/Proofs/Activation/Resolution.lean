import SoloDuel.Proofs.Activation.EnterPlay
import SoloDuel.Proofs.Sequencer.Completion
import SoloDuel.Proofs.Snapshot.Deliveries
import SoloDuel.Proofs.Step.Selection
import SoloDuel.Step.Prebuilt
/-!
# Resolving with the source in play

What the prebuilt steps need to run while the source of an effect is in play, and what the steps of
an activation need, when triggers answer with counters only.

* `Collector.CountsSpells` — triggers that answer with counters, and the activation of a spell only.
* `Completes.draw`, `Completes.discard`, `Completes.search`, `Completes.addToHand`, … — one step of
  a resolution, given that the rest completes.
* `Completes.enter`, `Completes.ignite` — a whole activation, given that its resolution completes.
-/

namespace SoloDuel

open Snapshot

/-- Triggers answer the activation of spells only, with counters for cards on the field. -/
structure Collector.CountsSpells (collector : Collector) : Prop where
  quiet : ∀ s event, event.kind ≠ .spellActivated → collector s event = []
  counters : ∀ s event, s.board.Sound → ∀ step ∈ collector s event, ∃ id limit card,
    step = .addCounters id .spell 1 limit ∧ s.find? id = some card ∧ card.isOnField = true

namespace Completes

variable {collector : Collector} {Q : Snapshot → Prop} {n m : Nat} {s : Snapshot}
  {source : InstanceId} {zone origin : ZoneName} {rest : List Step}

/-! ## Steps that ask nothing -/

/-- A step with a quiet outcome. -/
theorem quietly {step : Step} {out : Outcome} (hrequest : step.request s = none)
    (hrun : step.run s [] = .ok out) (hquiet : out.events.flatMap (collector out.state) = [])
    (hrest : Completes collector Q n m out.state rest) :
    Completes collector Q n (m + 1) s (step :: rest) := by
  refine .run hrequest hrun ?_
  rw [hquiet]
  exact hrest

/-- A step that draws cards of which the deck has enough. -/
theorem draws {step : Step} {count : Nat} (hc : collector.CountsSpells)
    (hrequest : step.request s = none) (hrun : step.run s [] = s.draw count)
    (hin : InPlay source zone s) (hcount : count ≤ s.count .deck)
    (hrest : ∀ t, InPlay source zone t → t.count .hand = s.count .hand + count →
      Completes collector Q n m t rest) :
    Completes collector Q n (m + 1) s (step :: rest) := by
  obtain ⟨t, message, hdraw, hsound, hkeeps, hhand⟩ := draw_spec hin.sound hcount
  refine quietly hrequest (hrun.trans hdraw) ?_ (hrest t (hin.keeps hkeeps hsound rfl) hhand)
  rw [List.flatMap_singleton]
  exact hc.quiet t (.cardsDrawn count) (by simp [Event.kind])

theorem draw {count : UInt64} (hc : collector.CountsSpells) (hin : InPlay source zone s)
    (hcount : count.toNat ≤ s.count .deck)
    (hrest : ∀ t, InPlay source zone t → t.count .hand = s.count .hand + count.toNat →
      Completes collector Q n m t rest) :
    Completes collector Q n (m + 1) s (.draw count :: rest) :=
  draws hc rfl rfl hin hcount hrest

theorem drawUntil {handSize : UInt64} (hc : collector.CountsSpells) (hin : InPlay source zone s)
    (hcount : handSize.toNat - s.count .hand ≤ s.count .deck)
    (hrest : ∀ t, InPlay source zone t → Completes collector Q n m t rest) :
    Completes collector Q n (m + 1) s (.drawUntil handSize :: rest) :=
  draws hc rfl rfl hin hcount fun t ht _ => hrest t ht

theorem gainLife {side : Side} {amount : UInt32} (hc : collector.CountsSpells)
    (hin : InPlay source zone s)
    (hrest : ∀ t, InPlay source zone t → Completes collector Q n m t rest) :
    Completes collector Q n (m + 1) s (.gainLife side amount :: rest) := by
  refine quietly rfl rfl ?_ (hrest _ ⟨hin.sound, hin.onField, hin.card⟩)
  rw [List.flatMap_singleton]
  exact hc.quiet _ (.lifeChanged side (.ofNat amount.toNat)) (by simp [Event.kind])

/-- The last step of a self-contained card. -/
theorem sendToGraveyard (hin : InPlay source zone s)
    (hQ : ∀ t, t.board.holds .graveyard source = true → Q t) :
    Completes collector Q n 2 s [.sendToGraveyard source] := by
  obtain ⟨c, hfind, -, -⟩ := hin.card
  obtain ⟨t, message, hsend, -, hholds⟩ := sendToGraveyard_spec hin.sound hfind
  exact quietly rfl hsend rfl (.done (hQ t hholds))

/-! ## Steps that ask for cards -/

/-- A step that asks for cards of a zone, of which there are enough. -/
theorem choose {step : Step} {filter : CardFilter} {min max : UInt64}
    (hselection : step.selection = some (.fromZone origin filter min max))
    (hnotice : step.notice = .interactive) (hs : s.board.Sound) (hbounds : min ≤ max)
    (henough : min.toNat ≤ ((s.zone origin).filter filter.accepts).length)
    (hchosen : ∀ chosen, chosen.Nodup → min.toNat ≤ chosen.length → chosen.length ≤ max.toNat →
      (∀ id ∈ chosen, ∃ card ∈ s.zone origin, filter.accepts card = true ∧ card.id = id) →
      ∃ t message, step.run s chosen = .ok { state := t, message := message } ∧
        Completes collector Q n m t rest) :
    Completes collector Q (n + 1) (m + 1) s (step :: rest) := by
  have hrequest : step.request s = some
      ((CardSelection.fromZone origin filter min max).request step.id step.summary s) := by
    simp [Step.request, Step.isInteractive, hnotice, hselection]
  have hvalidate : ∀ chosen, step.validate s chosen =
      (CardSelection.fromZone origin filter min max).validate s chosen := by
    simp [Step.validate, hselection]
  have hcandidates : min.toNat ≤
      ((CardSelection.fromZone origin filter min max).candidates s).length := by
    simpa [CardSelection.candidates, CardSelection.fromZone] using henough
  have hstep : ∀ chosen, step.validate s chosen = .ok () → ∃ t message,
      step.run s chosen = .ok { state := t, message := message } ∧
        Completes collector Q n m t rest := by
    intro chosen hvalid
    rw [hvalidate] at hvalid
    obtain ⟨hmin, hmax, hnodup, hmem⟩ := CardSelection.validate_eq_ok_iff.mp hvalid
    exact hchosen chosen hnodup hmin hmax fun id hid =>
      CardSelection.mem_candidates_fromZone.mp (hmem id hid)
  refine .ask hrequest hcandidates rfl ?_ (fun chosen hvalid => ?_) fun chosen out hvalid hout => ?_
  · simp only [hvalidate]
    exact CardSelection.exists_answer (CardSelection.candidates_fromZone_nodup hs.distinct) hbounds
      hcandidates
  · obtain ⟨t, message, hrun, -⟩ := hstep chosen hvalid
    exact ⟨_, hrun⟩
  · obtain ⟨t, message, hrun, hrest⟩ := hstep chosen hvalid
    rw [hrun] at hout
    cases hout
    exact hrest

/-- A card that satisfies a filter is one that can be chosen. -/
theorem one_le_length_filter {filter : CardFilter} (h : (s.zone origin).any filter.accepts = true) :
    (1 : UInt64).toNat ≤ ((s.zone origin).filter filter.accepts).length := by
  obtain ⟨card, hcard, haccepts⟩ := List.any_eq_true.mp h
  exact List.length_pos_of_mem (List.mem_filter.mpr ⟨hcard, haccepts⟩)

theorem discard {count : UInt64} (hin : InPlay source zone s) (hcount : count.toNat ≤ s.count .hand)
    (hrest : ∀ t, InPlay source zone t → Keeps .hand s t → Completes collector Q n m t rest) :
    Completes collector Q (n + 1) (m + 1) s (.discard count :: rest) := by
  have hall : (s.zone .hand).filter CardFilter.any.accepts = s.zone .hand :=
    List.filter_eq_self.mpr fun card _ => by simp [CardFilter.accepts]
  have hselection : (Step.discard count).selection = some (.fromZone .hand .any count count) := rfl
  have henough : count.toNat ≤ ((s.zone .hand).filter CardFilter.any.accepts).length := by
    rw [hall]
    exact hcount
  refine choose hselection rfl hin.sound (UInt64.le_refl count) henough
    fun chosen hnodup _ _ hmem => ?_
  have hhand : ∀ id ∈ chosen, s.location? id = some .hand := by
    intro id hid
    obtain ⟨card, hcard, -, rfl⟩ := hmem id hid
    exact location?_of_mem hin.sound hcard
  obtain ⟨t, message, hdiscard, hsound, hkeeps⟩ := discard_spec hin.sound hnodup hhand
  exact ⟨t, message, hdiscard, hrest t (hin.keeps hkeeps hsound rfl) hkeeps⟩

/-- A step that has one card of a zone off the field put somewhere else. -/
theorem chooseOne {step : Step} {filter : CardFilter}
    (hselection : step.selection = some (.fromZone origin filter 1 1))
    (hnotice : step.notice = .interactive) (hin : InPlay source zone s)
    (horigin : origin.isOnField = false) (hsome : (s.zone origin).any filter.accepts = true)
    (hrun : ∀ id, s.location? id = some origin → ∃ t message,
      step.run s [id] = .ok { state := t, message := message } ∧ t.board.Sound ∧ Keeps origin s t)
    (hrest : ∀ t, InPlay source zone t → Completes collector Q n m t rest) :
    Completes collector Q (n + 1) (m + 1) s (step :: rest) := by
  refine choose hselection hnotice hin.sound (UInt64.le_refl 1) (one_le_length_filter hsome)
    fun chosen _ hmin hmax hmem => ?_
  obtain ⟨id, rfl⟩ := List.length_eq_one_iff.mp (Nat.le_antisymm hmax hmin)
  obtain ⟨card, hcard, -, rfl⟩ := hmem id List.mem_cons_self
  obtain ⟨t, message, hstep, hsound, hkeeps⟩ := hrun card.id (location?_of_mem hin.sound hcard)
  exact ⟨t, message, hstep, hrest t (hin.keeps hkeeps hsound horigin)⟩

theorem search {filter : CardFilter} (hin : InPlay source zone s)
    (hsome : (s.zone .deck).any filter.accepts = true)
    (hrest : ∀ t, InPlay source zone t → Completes collector Q n m t rest) :
    Completes collector Q (n + 1) (m + 1) s (.search filter :: rest) :=
  chooseOne rfl rfl hin rfl hsome (fun _ hlocation => search_spec hin.sound hlocation) hrest

theorem addToHand {filter : CardFilter} (hin : InPlay source zone s)
    (horigin : origin.isOnField = false) (hsome : (s.zone origin).any filter.accepts = true)
    (hrest : ∀ t, InPlay source zone t → Completes collector Q n m t rest) :
    Completes collector Q (n + 1) (m + 1) s (.addToHand origin filter :: rest) :=
  chooseOne rfl rfl hin horigin hsome (fun _ hlocation => addToHand_spec hin.sound hlocation) hrest

/-! ## Whole activations -/

/-- The counters that triggers answer with. Each step finds its card still on the field, as counters
move no card. -/
theorem counters {steps : List Step} (hs : s.board.Sound)
    (hsteps : ∀ step ∈ steps, ∃ id limit card, step = .addCounters id .spell 1 limit ∧
      s.find? id = some card ∧ card.isOnField = true)
    (hrest : ∀ t, Board.Retouched s.board t.board → Completes collector Q n m t rest) :
    Completes collector Q n (m + steps.length) s (steps ++ rest) := by
  induction steps generalizing s with
  | nil => exact hrest s (.refl s.board)
  | cons step steps ih =>
    obtain ⟨id, limit, card, rfl, hfind, hfield⟩ := hsteps step List.mem_cons_self
    obtain ⟨t, message, hadd, htouched⟩ := addCounters_spec hs hfind hfield .spell 1 limit
    refine quietly rfl hadd rfl (ih (htouched.sound hs) (fun other hother => ?_)
      fun u hu => hrest u (htouched.trans hu))
    obtain ⟨id', limit', card', rfl, hfind', hfield'⟩ :=
      hsteps other (List.mem_cons_of_mem _ hother)
    obtain ⟨c, hc, -, hcfield, -⟩ := htouched.find? hfind'
    exact ⟨id', limit', c, rfl, hc, hcfield.trans hfield'⟩

variable {effect : CardEffect} {book : RuleBook}

/-- An activation whose source comes into play: what the effect does follows on a snapshot that has
it there. -/
theorem enter (hc : collector.CountsSpells) (hs : s.board.Sound)
    (hvalid : effect.template.validate book s source effect.id effect.once = .ok ())
    (hzone : effect.template.destination = some zone)
    (hrest : ∀ t, Entered s source zone t →
      Completes collector Q n m t (effect.resolutionSteps s source)) :
    ∃ m', Completes collector Q n m' s (effect.steps s source) := by
  obtain ⟨-, card, hfind, -, -, -, hlocation, -⟩ := ActivationTemplate.of_validate hvalid
  obtain ⟨u, message, hactivate, hentered⟩ :=
    ActivationTemplate.activate_spec hs hfind hzone hlocation card.name effect.id effect.once
  have hcounters := counters hentered.sound
    (hc.counters u (effect.template.event effect.id source) hentered.sound)
    fun t ht => hrest t (hentered.retouched ht)
  rw [← List.flatMap_singleton (collector u)] at hcounters
  rw [effect.steps_eq hfind]
  exact ⟨_, quietly rfl hactivate rfl (quietly rfl rfl rfl (.run rfl rfl hcounters))⟩

/-- An ignition effect: what it does follows on a snapshot that has the source where it was, with
the counters it had. -/
theorem ignite (hc : collector.CountsSpells) (hs : s.board.Sound)
    (htemplate : effect.template = .ignition)
    (hvalid : effect.template.validate book s source effect.id effect.once = .ok ())
    (hrest : ∀ card, s.find? source = some card → ∀ t, InPlay source card.location t →
      t.zone .deck = s.zone .deck →
      (∃ c, t.find? source = some c ∧ c.isOnField = true ∧
        ∀ kind, c.counter kind = card.counter kind) →
      Completes collector Q n m t (effect.resolutionSteps s source)) :
    ∃ m', Completes collector Q n m' s (effect.steps s source) := by
  obtain ⟨-, card, hfind, -, -, -, hlocation, -⟩ := ActivationTemplate.of_validate hvalid
  rw [htemplate] at hlocation
  obtain ⟨hfield, -⟩ := ActivationTemplate.of_checkLocation_ignition hlocation
  obtain ⟨hactivate, hin⟩ :=
    ActivationTemplate.activate_spec_ignition hs hfind hlocation card.name effect.id effect.once
  rw [← htemplate] at hactivate
  have htouched := ActivationTemplate.retouched_mark hs source effect.id effect.once
  obtain ⟨c, hc', hcfield, hcounter⟩ := ActivationTemplate.find?_mark hs hfind effect.id effect.once
  have hresolves := hrest card hfind _ hin (htouched.zone_eq hs rfl)
    ⟨c, hc', hcfield.trans hfield, hcounter⟩
  have hquiet : [effect.template.event effect.id source].flatMap
      (collector (ActivationTemplate.mark s source effect.id effect.once)) = [] := by
    rw [List.flatMap_singleton, htemplate]
    exact hc.quiet _ _ (by simp [ActivationTemplate.event, Event.kind])
  rw [effect.steps_eq hfind]
  exact ⟨_, quietly rfl hactivate rfl (quietly rfl rfl rfl (quietly rfl rfl hquiet hresolves))⟩

end Completes

end SoloDuel
