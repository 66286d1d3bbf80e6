import SoloDuel.Proofs.Sequencer.Protocol
import SoloDuel.Proofs.Step.Selection
/-!
# Which prompts can be answered

A sequencer fails at a step with fewer candidates than cards to choose, so that it does not wait for
an answer that nobody can give. It counts a candidate as often as it comes, though, while an answer
may name it only once, and it does not look at the upper bound. A prompt that slips through leaves
the run stuck, unless it can be cancelled.

* `SelectionRequest.Answerable` — what a prompt needs to have an answer.
* `Sequencer.Takes` — the sequencer does not refuse chosen cards.
* `Sequencer.exists_takes_iff_of_play` — the prompts of every run that have an answer.
* `Sequencer.exists_takes_of_fromZone` — a choice among the cards of a zone has one.
-/

namespace SoloDuel

/-- There are enough different candidates, and the bounds do not exclude each other. -/
def SelectionRequest.Answerable (request : SelectionRequest) : Prop :=
  request.min ≤ request.max ∧ request.min.toNat ≤ request.candidates.dedup.length

instance (request : SelectionRequest) : Decidable request.Answerable :=
  inferInstanceAs (Decidable (_ ∧ _))

/-- A step that waits has an answer exactly when what it asks is answerable. -/
theorem Step.exists_answer_iff {step : Step} {s : Snapshot} {request : SelectionRequest}
    (h : step.request s = some request) :
    (∃ chosen, step.validate s chosen = .ok ()) ↔ request.Answerable := by
  have hinteractive := isInteractive_of_request h
  rw [Step.request, if_pos hinteractive] at h
  cases hselection : step.selection with
  | some selection =>
    rw [hselection] at h
    cases h
    simp only [Step.validate, hselection]
    exact CardSelection.exists_answer_iff
  | none =>
    -- without a selection the empty answer is asked for
    rw [hselection] at h
    cases h
    simp only [Step.validate, hselection]
    exact iff_of_true ⟨[], rfl⟩ ⟨UInt64.le_refl 0, Nat.zero_le _⟩

namespace Sequencer

variable {s : Snapshot} {q : Sequencer} {step : Step} {i : Nat} {request : SelectionRequest}
  {chosen : List InstanceId}

/-- The sequencer does not refuse the chosen cards, however far it may go on with them. -/
def Takes (q : Sequencer) (chosen : List InstanceId) : Prop :=
  ∀ fuel, ∃ r, q.provide fuel chosen = .ok r ∧
    ∀ q' refusal request, r ≠ some (q', .rejected refusal request)

/-- While a sequencer waits, the step at the cursor asks what is shown. -/
theorem Consistent.exists_step (hc : q.Consistent) (hstatus : q.status = .awaiting i request) :
    ∃ step, q.steps[q.cursor]? = some step ∧ step.request q.state = some request := by
  obtain ⟨-, hlt, -, hrequest, -⟩ := hc.awaiting i request hstatus
  exact ⟨_, List.getElem?_eq_getElem hlt, hrequest⟩

theorem takes_of_validate (hc : q.Consistent) (hstatus : q.status = .awaiting i request)
    (hstep : q.steps[q.cursor]? = some step) (hvalid : step.validate q.state chosen = .ok ()) :
    q.Takes chosen := by
  intro fuel
  cases hcall : q.call fuel (.provide chosen) with
  | error fault =>
    obtain ⟨hearly, -⟩ := (hc.call_eq_error_iff fuel _ fault).mp hcall
    rw [hstatus] at hearly
    cases hearly
  | ok r =>
    refine ⟨r, hcall, ?_⟩
    rintro q' refusal request' rfl
    cases answers_of_call hcall with
    | rejected _ hstep' hinvalid =>
      rw [hstep] at hstep'
      cases hstep'
      rw [hvalid] at hinvalid
      cases hinvalid
    | resumed _ _ _ _ _ hlast => cases hlast

theorem validate_of_takes (hstatus : q.status = .awaiting i request)
    (hstep : q.steps[q.cursor]? = some step) (h : q.Takes chosen) :
    step.validate q.state chosen = .ok () := by
  obtain ⟨r, hr, hne⟩ := h 0
  cases hvalidate : step.validate q.state chosen with
  | ok => rfl
  | error refusal =>
    simp only [provide, hstatus, hstep, hvalidate] at hr
    exact absurd (Except.ok.inj hr).symm (hne q refusal request)

/-- A consistent sequencer takes an answer exactly when what it asks is answerable. -/
theorem Consistent.exists_takes_iff (hc : q.Consistent)
    (hstatus : q.status = .awaiting i request) :
    (∃ chosen, q.Takes chosen) ↔ request.Answerable := by
  obtain ⟨step, hstep, hrequest⟩ := hc.exists_step hstatus
  rw [← Step.exists_answer_iff hrequest]
  exact ⟨fun ⟨chosen, h⟩ => ⟨chosen, validate_of_takes hstatus hstep h⟩,
    fun ⟨chosen, h⟩ => ⟨chosen, takes_of_validate hc hstatus hstep h⟩⟩

/-- **Which prompts can be answered.** Whatever the steps and the triggers are and whatever calls
were made, while a sequencer waits there are cards it does not refuse exactly when there are enough
different candidates and the bounds do not exclude each other. -/
theorem exists_takes_iff_of_play {steps : List Step} {collector : Collector} {fuel : Nat}
    {calls : List SequencerCall} {log : CallLog}
    (hplay : (new s steps collector).play fuel calls = some (q, log))
    (hstatus : q.status = .awaiting i request) :
    (∃ chosen, q.Takes chosen) ↔ request.Answerable :=
  (consistent_of_play hplay).1.exists_takes_iff hstatus

/-- A choice among the cards of a zone can be answered, as no zone holds a copy twice. -/
theorem exists_takes_of_fromZone {name : ZoneName} {filter : CardFilter} {min max : UInt64}
    (hc : q.Consistent) (hstatus : q.status = .awaiting i request)
    (hstep : q.steps[q.cursor]? = some step)
    (hselection : step.selection = some (.fromZone name filter min max)) (hbounds : min ≤ max)
    (hids : q.state.board.ids.Nodup) : ∃ chosen, q.Takes chosen := by
  obtain ⟨-, hlt, hinteractive, hrequest, henough⟩ := hc.awaiting i request hstatus
  obtain rfl : q.steps[q.cursor] = step :=
    Option.some.inj ((List.getElem?_eq_getElem hlt).symm.trans hstep)
  refine (hc.exists_takes_iff hstatus).mpr ?_
  rw [Step.request, if_pos hinteractive, hselection] at hrequest
  cases hrequest
  have hnodup : ((CardSelection.fromZone name filter min max).candidates q.state).Nodup :=
    CardSelection.candidates_fromZone_nodup hids
  refine ⟨hbounds, ?_⟩
  dsimp only [CardSelection.request]
  rw [hnodup.dedup]
  exact henough

/-! ## A prompt without an answer -/

/-- A duel with one card, in the hand. -/
def oneCard : Snapshot :=
  { cardless with board := { hand := [.new ⟨1⟩ (.spell ⟨1⟩ "Card" .normal) .hand] } }

/-- A step that asks for two different cards where the one card is a candidate twice. -/
def askTwice : Step :=
  (Step.notify "ask" "asked").asking (.fixed [⟨1⟩, ⟨1⟩] 2 2)

/-- A prompt that can be answered: one card of one. -/
theorem exists_takes_of_one_card : ∃ q log request,
    (new oneCard [.discard 1] .silent).play 2 [.start] = some (q, log) ∧
      q.status = .awaiting 0 request ∧ ((∃ chosen, q.Takes chosen) ↔ request.Answerable) := by
  have h : (new oneCard [.discard 1] .silent).play 2 [.start] = some (_, _) := rfl
  exact ⟨_, _, _, h, rfl, exists_takes_iff_of_play h rfl⟩

/-- **A run that is stuck.** The sequencer waits, cannot be cancelled and refuses every choice. -/
theorem stuck_at_repeated_candidate : ∃ q log request,
    (new oneCard [askTwice] .silent).play 2 [.start] = some (q, log) ∧
      log = [(.start, .ok (.awaiting request))] ∧ request.cancelable = false ∧
      ¬ ∃ chosen, q.Takes chosen := by
  have h : (new oneCard [askTwice] .silent).play 2 [.start] = some (_, _) := rfl
  refine ⟨_, _, _, h, rfl, rfl, ?_⟩
  rw [(consistent_of_play h).1.exists_takes_iff rfl]
  decide

end Sequencer

end SoloDuel
