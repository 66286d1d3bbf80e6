import SoloDuel.Proofs.Board.Moves
import SoloDuel.Proofs.Engine.Steps
import SoloDuel.Proofs.Sequencer.Worklist
/-!
# The step that closes a run

The steps with which triggers answer a step go directly behind it. The last step of a run is
therefore overtaken by none of them as long as nothing answers the last step itself. A
self-contained card is sent to the graveyard by such a step, wherever the steps before it have taken
it and whatever they were.

* `Sequencer.Closing` — the last step of a run has not run yet, or the run is over.
* `Sequencer.closed_of_play` — what the last step leaves behind is there when a run is complete.
* `Snapshot.Buried` — a copy is on top of the graveyard.
* `CardEffect.buried_of_completed` — a self-contained card is, when its activation is complete.
-/

namespace SoloDuel

/-! ## The last step -/

/-- The step reports nothing that triggers could answer, and what it leaves behind has a
property. -/
structure Step.Closes (step : Step) (Q : Snapshot → Prop) : Prop where
  quiet : ∀ {s chosen out}, step.run s chosen = .ok out → out.events = []
  leaves : ∀ {s chosen out}, step.run s chosen = .ok out → Q out.state

namespace Sequencer

variable {last step : Step} {Q : Snapshot → Prop} {s : Snapshot} {q q' : Sequencer}

/-- The steps end with a certain one, and when none is left to run, the snapshot has a property. -/
structure Closing (last : Step) (Q : Snapshot → Prop) (q : Sequencer) : Prop where
  ends : q.steps.getLast? = some last
  closed : q.steps.length ≤ q.cursor → Q q.state

/-- A step with nothing behind it is the last one. -/
theorem getLast?_of_length_le (h : q.steps[q.cursor]? = some step)
    (hend : q.steps.length ≤ q.cursor + 1) : q.steps.getLast? = some step := by
  have hlt := lt_length_of_getElem? h
  have hlength : q.steps.length - 1 = q.cursor := by omega
  rw [List.getLast?_eq_getElem?, hlength, h]

/-- What is put in behind a step comes before the last step, unless it was that step. -/
theorem getLast?_accept (h : q.steps[q.cursor]? = some step) (out : Outcome)
    (hquiet : q.steps.getLast? = some step → out.events = []) :
    (q.accept out).steps.getLast? = q.steps.getLast? := by
  by_cases hend : q.steps.length ≤ q.cursor + 1
  · have hlast := getLast?_of_length_le h hend
    have hsteps : (q.accept out).steps = q.steps := by
      simp [accept, hquiet hlast, List.drop_eq_nil_of_le hend, List.take_of_length_le hend]
    rw [hsteps]
  · obtain ⟨final, hfinal⟩ : ∃ final, q.steps.getLast? = some final :=
      Option.isSome_iff_exists.mp (by simpa using fun hnil => hend (by simp [hnil]))
    have hdrop : (q.steps.drop (q.cursor + 1)).getLast? = some final := by
      rw [List.getLast?_drop, if_neg hend, hfinal]
    rw [hfinal, accept, List.getLast?_append, hdrop, Option.some_or]

/-- **Going past a step, the closing step stays the last one**, and only after it none is left. -/
theorem Closing.accept (hq : q.Closing last Q) (hlast : last.Closes Q)
    {chosen : List InstanceId} {out : Outcome} (hstep : q.steps[q.cursor]? = some step)
    (hrun : step.run q.state chosen = .ok out) : (q.accept out).Closing last Q where
  ends := by
    rw [getLast?_accept hstep out, hq.ends]
    intro hends
    obtain rfl : last = step := Option.some.inj (hq.ends.symm.trans hends)
    exact hlast.quiet hrun
  closed := by
    intro hend
    have hbehind : q.steps.drop (q.cursor + 1) = [] := by
      have hnone := List.drop_eq_nil_of_le hend
      rw [drop_cursor_accept hstep] at hnone
      exact (List.append_eq_nil_iff.mp hnone).2
    have hends := getLast?_of_length_le hstep (List.drop_eq_nil_iff.mp hbehind)
    obtain rfl : last = step := Option.some.inj (hq.ends.symm.trans hends)
    exact hlast.leaves hrun

theorem Answers.closing {c : SequencerCall} {a : SequencerAnswer} (h : q.Answers c q' a)
    (hconsistent : q.Consistent) (hlast : last.Closes Q) (hq : q.Closing last Q) :
    q'.Closing last Q := by
  refine h.preserves (fun _ hq => ⟨hq.ends, hq.closed⟩)
    (fun hq hstep hrun => hq.accept hlast hstep hrun) hq fun ha => ⟨hq.ends, fun hend => ?_⟩
  -- a run is cancelled while a step waits, so it is not at its end
  subst ha
  cases h with
  | started _ _ hvisit => cases hvisit
  | resumed _ _ _ _ _ hvisit => cases hvisit
  | cancelled hstatus =>
    obtain ⟨-, hlt, -⟩ := hconsistent.awaiting _ _ hstatus
    exact absurd hend (Nat.not_le_of_lt hlt)

/-- A run that is complete is behind its last step. -/
theorem Closing.of_complete (hq : q.Closing last Q) (hconsistent : q.Consistent)
    (hcomplete : q.status = .complete) : Q q.state :=
  hq.closed (Nat.le_of_eq (hconsistent.complete hcomplete).symm)

/-- Only a run that is complete answers so. -/
theorem Answers.status_of_completed {c : SequencerCall} {t : Snapshot}
    (h : q.Answers c q' (.completed t)) : q'.status = .complete := by
  cases h with
  | started _ _ hvisit =>
    cases hvisit
    rfl
  | resumed _ _ _ _ _ hvisit =>
    cases hvisit
    rfl

/-- One call. -/
theorem closing_of_answer {fuel : Nat} {c : SequencerCall} {result : CallResult}
    (h : q.answer fuel c = some (q', result)) (hlast : last.Closes Q)
    (hq : (q.Consistent ∧ q.Within s) ∧ q.Closing last Q) :
    ((q'.Consistent ∧ q'.Within s) ∧ q'.Closing last Q) ∧
      ∀ t, result = .ok (.completed t) → Q t := by
  have hfits := consistent_of_answer hq.1.1 hq.1.2 h
  rcases answers_of_answer h with ⟨fault, rfl, rfl⟩ | ⟨a, rfl, hanswers⟩
  · exact ⟨hq, fun t ht => by cases ht⟩
  · have hclosed := hanswers.closing hq.1.1 hlast hq.2
    refine ⟨⟨hfits, hclosed⟩, fun t ht => ?_⟩
    cases ht
    rw [hanswers.state_eq rfl]
    exact hclosed.of_complete hfits.1 hanswers.status_of_completed

/-- **What the last step of a run leaves behind is there when the run is complete**, whatever the
steps before it are, whatever triggers answer and whatever calls are made. -/
theorem closed_of_play {front : List Step} {collector : Collector} {fuel : Nat}
    {calls : List SequencerCall} {log : CallLog} (hlast : last.Closes Q)
    (h : (new s (front ++ [last]) collector).play fuel calls = some (q, log)) :
    (∀ c t, (c, .ok (.completed t)) ∈ log → Q t) ∧ (q.status = .complete → Q q.state) := by
  have hnew : ((new s (front ++ [last]) collector).Consistent ∧
      (new s (front ++ [last]) collector).Within s) ∧
        (new s (front ++ [last]) collector).Closing last Q := by
    refine ⟨⟨new_consistent _ _ _, new_within _ _ _⟩, List.getLast?_concat .., fun hend => ?_⟩
    simp [new] at hend
  generalize new s (front ++ [last]) collector = q₀ at h hnew
  induction calls generalizing q₀ log with
  | nil =>
    cases h
    exact ⟨by simp, hnew.2.of_complete hnew.1.1⟩
  | cons c calls ih =>
    obtain ⟨q₁, result, rest, hanswer, hrest, rfl⟩ := playCalls_cons_eq_some.mp h
    obtain ⟨hq₁, hfirst⟩ := closing_of_answer hanswer hlast hnew
    obtain ⟨hlater, hcomplete⟩ := ih q₁ hrest hq₁
    refine ⟨fun c t hmem => ?_, hcomplete⟩
    rcases List.mem_cons.mp hmem with hmem | hmem
    · exact hfirst t (congrArg Prod.snd hmem).symm
    · exact hlater c t hmem

end Sequencer

/-! ## On top of the graveyard -/

namespace Snapshot

/-- The copy is on top of the graveyard, as it should be there. -/
def Buried (s : Snapshot) (id : InstanceId) : Prop :=
  ∃ card, s.board.top? .graveyard = some card ∧ card.id = id ∧ card.location = .graveyard ∧
    card.field = none

end Snapshot

/-- What is moved comes to lie on top of the zone, on any board. -/
theorem Board.exists_top?_of_moveTo {a b : Board} {id : InstanceId} {target recorded : ZoneName}
    {placement : Placement} (h : b.moveTo id target placement .top = some (recorded, a)) :
    ∃ card : CardInstance, card.id = id ∧ a.top? target = some (card.movedTo target placement) := by
  obtain ⟨⟨card, rest⟩, hremove, hmoved⟩ := Option.bind_eq_some_iff.mp h
  obtain ⟨⟨name, place⟩, hlocate, hremove⟩ := Option.bind_eq_some_iff.mp hremove
  obtain ⟨held, hheld, hrest⟩ := Option.bind_eq_some_iff.mp hremove
  cases hrest
  cases hmoved
  obtain ⟨found, hfound, hid⟩ := exists_of_locate hlocate
  obtain rfl : found = card := Option.some.inj (hfound.symm.trans hheld)
  refine ⟨found, hid, ?_⟩
  have htarget : target = (found.movedTo target placement).location := rfl
  rw [top?, zone_insert_top, if_pos htarget, List.getLast?_concat]

open Snapshot in
theorem Step.closes_sendToGraveyard (source : InstanceId) :
    (Step.sendToGraveyard source).Closes (·.Buried source) where
  quiet := events_of_moveCard
  leaves := by
    intro s chosen out hrun
    obtain ⟨⟨origin, next⟩, hmove, hout⟩ := bind_eq_ok.mp hrun
    cases hout
    unfold relocate at hmove
    split at hmove
    · cases hmove
    · split at hmove
      · cases hmove
      · split at hmove <;> cases hmove
        rename_i recorded board hmoveTo
        obtain ⟨card, hid, htop⟩ := Board.exists_top?_of_moveTo hmoveTo
        exact ⟨_, htop, hid, rfl, rfl⟩

/-! ## Self-contained cards -/

namespace CardEffect

open Snapshot

variable {effect : CardEffect} {source : InstanceId} {s t u : Snapshot} {q : Sequencer}

/-- **A self-contained card ends on top of the graveyard.** Whatever its effect does, whatever
triggers answer and however the player chooses, when its activation is complete the card is the last
one of the graveyard, without field state. The steps may have been made on other snapshots than the
one they are played out on. -/
theorem buried_of_completed (hself : effect.template.isSelfContained = true)
    {collector : Collector} {fuel : Nat} {calls : List SequencerCall} {log : CallLog}
    (hplay : (Sequencer.new s (effect.activationSteps t source ++ effect.resolutionSteps u source)
      collector).play fuel calls = some (q, log)) :
    (∀ c v, (c, .ok (.completed v)) ∈ log → v.Buried source) ∧
      (q.status = .complete → q.state.Buried source) := by
  rw [resolutionSteps_eq, if_pos hself, ← List.append_assoc] at hplay
  exact Sequencer.closed_of_play (Step.closes_sendToGraveyard source) hplay

/-- A normal spell that has the player draw a card and discard one. -/
def exchange : CardEffect :=
  (CardEffect.new ⟨1⟩ .normalSpell).resolving fun _ _ => [.draw 1, .discard 1]

/-- The spell in hand and a card to draw. -/
def exchangeReady : Snapshot :=
  { Sequencer.cardless with
    board :=
      { deck := [.new ⟨2⟩ (.spell ⟨2⟩ "Other" .normal) .deck]
        hand := [.new ⟨1⟩ (.spell ⟨1⟩ "Exchange" .normal) .hand] } }

/-- Answers a draw by sending the spell to the graveyard at once. -/
def hasty : Collector := fun _ event =>
  match event with
  | .cardsDrawn _ => [.sendToGraveyard ⟨1⟩]
  | _ => []

/-- A trigger sends the spell to the graveyard early, and a discarded card comes to lie on it. When
the activation is complete, the spell is on top all the same. -/
theorem buried_of_exchange : ∃ q log,
    (Sequencer.new exchangeReady (exchange.activationSteps exchangeReady ⟨1⟩ ++
      exchange.resolutionSteps exchangeReady ⟨1⟩) hasty).play 9 [.start, .provide [⟨2⟩]] =
        some (q, log) ∧
      q.steps.map (·.id) = ["activate", "notify", "announce", "draw", "send_to_graveyard",
        "discard", "send_to_graveyard"] ∧
      (q.state.zone .graveyard).map (·.id) = [⟨2⟩, ⟨1⟩] ∧ q.status = .complete ∧
      q.state.Buried ⟨1⟩ := by
  have hrun : ((Sequencer.new exchangeReady (exchange.activationSteps exchangeReady ⟨1⟩ ++
      exchange.resolutionSteps exchangeReady ⟨1⟩) hasty).play 9 [.start, .provide [⟨2⟩]]).map
        (fun r => (r.1.steps.map (·.id), (r.1.state.zone .graveyard).map (·.id), r.1.status)) =
          some (["activate", "notify", "announce", "draw", "send_to_graveyard", "discard",
            "send_to_graveyard"], [⟨2⟩, ⟨1⟩], .complete) := by
    decide +kernel
  obtain ⟨⟨q, log⟩, hplay, heq⟩ := Option.map_eq_some_iff.mp hrun
  obtain ⟨hsteps, hrest⟩ := Prod.mk.inj heq
  obtain ⟨hgraveyard, hcomplete⟩ := Prod.mk.inj hrest
  exact ⟨q, log, hplay, hsteps, hgraveyard, hcomplete,
    (buried_of_completed rfl hplay).2 hcomplete⟩

end CardEffect

end SoloDuel
