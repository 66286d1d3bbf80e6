import SoloDuel.Proofs.Engine.Stock
import SoloDuel.Proofs.Sequencer.Completion
import SoloDuel.Proofs.Sequencer.Outcomes
/-!
# Runs end

The steps of a run grow in number while it goes on, so that the way from the cursor to the last step
is no measure of what is left. Where triggers do not answer the steps that triggers answer with, it
is: the steps that were pending when the call was made, and one batch of answers for each of them.

* `Collector.Settled` — triggers do not answer what triggers answer with; `silent_settled` and
  `Engine.Stocked.settled` say of which this is true.
* `Trail`, `Records` — the steps that run during a call, told apart by where they come from.
* `returns_of_settled` — every call comes back, within a bound on the steps it runs.
* `CallLog.suspensions` — how often a run was suspended; `suspensions_le_of_play` bounds it.
-/

namespace SoloDuel

/-! ## Settled triggers -/

namespace Collector

/-- The steps with which triggers answer the events of a step. -/
def responses (collector : Collector) (out : Outcome) : List Step :=
  out.events.flatMap (collector out.state)

/-- Triggers do not answer the events of steps that triggers answer with. -/
def Settled (collector : Collector) : Prop :=
  ∀ s event, ∀ step ∈ collector s event, step.Unheard collector

variable {collector : Collector} {out : Outcome}

theorem Settled.unheard (h : collector.Settled) :
    ∀ step ∈ collector.responses out, step.Unheard collector := by
  intro step hstep
  obtain ⟨event, -, hmem⟩ := List.mem_flatMap.mp hstep
  exact h out.state event step hmem

theorem silent_settled : silent.Settled := by
  intro s event step hstep
  cases hstep

end Collector

/-- The triggers of an engine are settled: the counters they place are reported to nobody. -/
theorem Engine.Stocked.settled {scripts : Script → Prop} {e : Engine} (h : e.Stocked scripts) :
    e.book.collect.Settled := by
  intro s event step hstep t chosen out hrun
  obtain ⟨id, limit, rfl⟩ := h.exists_eq_addCounters_of_mem_collect hstep
  have hevents : out.events = [] := Snapshot.events_of_addCounters hrun
  rw [hevents]
  rfl

/-! ## The steps that run during a call -/

/-- A step that ran during a call. -/
structure StepRecord where
  /-- Whether triggers answered with it during the call. If not, it was pending when the call was
  made. -/
  contributed : Bool
  out : Outcome

/-- The steps with which triggers answered the events of those steps that were pending when the call
was made. -/
def contributions (collector : Collector) (record : List StepRecord) : List Step :=
  (record.filter fun r => !r.contributed).flatMap fun r => collector.responses r.out

theorem contributions_cons (collector : Collector) (r : StepRecord) (record : List StepRecord) :
    contributions collector (r :: record) =
      (if r.contributed then [] else collector.responses r.out) ++
        contributions collector record := by
  cases hcontributed : r.contributed <;> simp [contributions, hcontributed]

namespace Sequencer

variable {q q₁ q' : Sequencer} {step : Step} {out : Outcome} {a : SequencerAnswer}
  {ahead : Nat} {record : List StepRecord} {collector : Collector} {rest : List Step}

/-- The steps that are still to be run. -/
def pending (q : Sequencer) : List Step := q.steps.drop q.cursor

theorem pending_accept (hstep : q.steps[q.cursor]? = some step) (out : Outcome)
    (status : SequencerStatus) :
    ({ q with status := status }.accept out).pending =
      q.collector.responses out ++ q.steps.drop (q.cursor + 1) :=
  drop_cursor_accept (q := { q with status := status }) hstep out

theorem collector_accept (q : Sequencer) (out : Outcome) (status : SequencerStatus) :
    ({ q with status := status }.accept out).collector = q.collector := rfl

/-- Going on over steps that run at once, with a record of them. Of the steps from the cursor on,
those `ahead` were put in by triggers since the call was made. -/
inductive Trail : (ahead : Nat) → Sequencer → List StepRecord → Sequencer → Prop
  | stop (ahead : Nat) (q : Sequencer) : Trail ahead q [] q
  | past {ahead : Nat} {q q' : Sequencer} {step : Step} {out : Outcome}
      {record : List StepRecord} :
      q.steps[q.cursor]? = some step → step.request q.state = none →
      step.run q.state [] = .ok out →
      Trail (ahead - 1 + (q.collector.responses out).length)
        ({ q with status := .running q.cursor }.accept out) record q' →
      Trail ahead q (⟨decide (0 < ahead), out⟩ :: record) q'

/-- The steps that run during a call that comes back. -/
inductive Records (q : Sequencer) :
    SequencerCall → List StepRecord → Sequencer → SequencerAnswer → Prop
  | started {record : List StepRecord} {q₁ q' : Sequencer} {a : SequencerAnswer} :
      q.status = .idle → Trail 0 q record q₁ → q₁.Visit q' (some a) →
      Records q .start record q' a
  | resumed {i : Nat} {request : SelectionRequest} {step : Step} {chosen : List InstanceId}
      {out : Outcome} {record : List StepRecord} {q₁ q' : Sequencer} {a : SequencerAnswer} :
      q.status = .awaiting i request → q.steps[q.cursor]? = some step →
      step.validate q.state chosen = .ok () → step.run q.state chosen = .ok out →
      Trail (q.collector.responses out).length
        ({ q with status := .running q.cursor }.accept out) record q₁ → q₁.Visit q' (some a) →
      Records q (.provide chosen) (⟨false, out⟩ :: record) q' a
  /-- The call leaves the cursor where it is. -/
  | still {c : SequencerCall} {q' : Sequencer} {a : SequencerAnswer} :
      q.Answers c q' a → q'.cursor = q.cursor → Records q c [] q' a

/-! ## The number of steps -/

/-- **The steps of a trail.** Those that ran and those still to be run are the ones that were
pending and the ones with which triggers answered these. -/
theorem Trail.length_add (h : Trail ahead q record q₁) (hc : q.collector.Settled)
    (hahead : ∀ step ∈ q.pending.take ahead, step.Unheard q.collector) :
    record.length + q₁.pending.length =
      q.pending.length + (contributions q.collector record).length := by
  induction h with
  | stop => simp [contributions]
  | @past ahead q q' step out record hstep _ hrun _ ih =>
    have hpending : q.pending = step :: q.steps.drop (q.cursor + 1) := drop_cursor_of_some hstep
    have hnext := pending_accept hstep out (.running q.cursor)
    rw [hpending] at hahead
    have hih := ih hc (by
      -- What triggers answered just now comes first, then what was ahead before.
      rw [hnext, Nat.add_comm, List.take_length_add_append]
      intro other hother
      rcases List.mem_append.mp hother with hother | hother
      · exact hc.unheard other hother
      · cases ahead with
        | zero => simp at hother
        | succ ahead => exact hahead other (List.mem_cons_of_mem _ hother))
    rw [hnext, List.length_append] at hih
    rw [contributions_cons, hpending]
    cases ahead with
    | zero =>
      simp only [Nat.lt_irrefl, decide_false, Bool.false_eq_true, if_false, List.length_append,
        List.length_cons]
      rw [collector_accept] at hih
      omega
    | succ ahead =>
      have hunheard : q.collector.responses out = [] :=
        hahead step List.mem_cons_self q.state [] out hrun
      simp only [Nat.succ_pos, decide_true, if_true, List.nil_append, List.length_cons]
      rw [collector_accept, hunheard, List.length_nil] at hih
      omega

/-! ## Runs come back -/

/-- From the cursor on the run goes to an answer, given one visit more than steps run. -/
def Halts (ahead : Nat) (q : Sequencer) : Prop :=
  ∃ record q₁ q' a, Trail ahead q record q₁ ∧ q₁.Visit q' (some a) ∧
    ∀ fuel, record.length < fuel → q.run fuel = some (q', a)

/-- A run comes back if it does so whenever the step at the cursor runs. -/
theorem halts_of_next
    (hnext : ∀ step out, q.steps[q.cursor]? = some step → step.run q.state [] = .ok out →
      Halts (ahead - 1 + (q.collector.responses out).length)
        ({ q with status := .running q.cursor }.accept out)) :
    Halts ahead q := by
  have hvisit := q.visit_spec
  cases hresult : q.visit with
  | mk q₁ b =>
    rw [hresult] at hvisit
    cases b with
    | some a =>
      refine ⟨[], q, q₁, a, .stop ahead q, hvisit, fun fuel hfuel => ?_⟩
      obtain ⟨fuel, rfl⟩ := Nat.exists_eq_succ_of_ne_zero (Nat.ne_of_gt hfuel)
      rw [run, hresult]
    | none =>
      cases hvisit with
      | ran hstep hrequest hrun =>
        obtain ⟨record, q₂, q', a, htrail, hlast, hreturns⟩ := hnext _ _ hstep hrun
        refine ⟨_, q₂, q', a, .past hstep hrequest hrun htrail, hlast, fun fuel hfuel => ?_⟩
        obtain ⟨fuel, rfl⟩ := Nat.exists_eq_succ_of_ne_zero (Nat.ne_of_gt (Nat.zero_lt_of_lt hfuel))
        rw [run, hresult]
        exact hreturns fuel (Nat.lt_of_succ_lt_succ hfuel)

theorem pending_cons (hpending : q.pending = step :: rest) :
    q.steps[q.cursor]? = some step ∧ q.steps.drop (q.cursor + 1) = rest := by
  have hhead := congrArg List.head? hpending
  have htail := congrArg List.tail hpending
  simp only [pending, List.head?_drop, List.tail_drop, List.head?_cons, List.tail_cons]
    at hhead htail
  exact ⟨hhead, htail⟩

/-- Steps that triggers do not answer are run one after another. -/
theorem halts_of_unheard {given contributed : List Step} (hcollector : q.collector = collector)
    (hunheard : ∀ step ∈ contributed, step.Unheard collector)
    (hgiven : ∀ r : Sequencer, r.collector = collector → r.pending = given → Halts 0 r)
    (hpending : q.pending = contributed ++ given) : Halts contributed.length q := by
  induction contributed generalizing q with
  | nil => exact hgiven q hcollector hpending
  | cons first contributed ih =>
    rw [List.forall_mem_cons] at hunheard
    obtain ⟨hfirst, hrest⟩ := pending_cons hpending
    refine halts_of_next fun step out hstep hrun => ?_
    obtain rfl : first = step := Option.some.inj (hfirst.symm.trans hstep)
    have hnone : q.collector.responses out = [] := by
      rw [hcollector]
      exact hunheard.1 q.state [] out hrun
    have hnext := pending_accept hstep out (.running q.cursor)
    rw [hnone, hrest, List.nil_append] at hnext
    rw [hnone]
    exact ih hcollector hunheard.2 hnext

/-- **A run with settled triggers comes back.** The induction is on the steps that were pending when
the call was made; what triggers answer one of them with is run before the next. -/
theorem halts_of_settled (hc : collector.Settled) (given contributed : List Step)
    (hcollector : q.collector = collector)
    (hunheard : ∀ step ∈ contributed, step.Unheard collector)
    (hpending : q.pending = contributed ++ given) : Halts contributed.length q := by
  induction given generalizing q contributed with
  | nil =>
    refine halts_of_unheard hcollector hunheard (fun r _ hr => ?_) hpending
    refine halts_of_next fun step out hstep _ => ?_
    have hcons : r.pending = step :: r.steps.drop (r.cursor + 1) := drop_cursor_of_some hstep
    rw [hr] at hcons
    cases hcons
  | cons first given ih =>
    refine halts_of_unheard hcollector hunheard (fun r hr hrpending => ?_) hpending
    obtain ⟨hfirst, hrest⟩ := pending_cons hrpending
    refine halts_of_next fun step out hstep _ => ?_
    have hnext := pending_accept hstep out (.running r.cursor)
    rw [hrest] at hnext
    have hresponses : ∀ other ∈ r.collector.responses out, other.Unheard collector := by
      rw [hr]
      exact hc.unheard
    rw [Nat.zero_sub, Nat.zero_add]
    exact ih _ hr hresponses hnext

/-! ## Calls come back -/

/-- The steps that a call may run: those that were pending and those with which triggers answered
these. -/
def budget (q : Sequencer) (record : List StepRecord) : Nat :=
  q.pending.length + (contributions q.collector record).length

/-- A call comes back with an answer, whatever number of steps it may visit, if that number is above
its budget. No more steps than that run, a step that was refused included. -/
structure Returns (q : Sequencer) (c : SequencerCall) (record : List StepRecord) (q' : Sequencer)
    (a : SequencerAnswer) : Prop where
  records : q.Records c record q' a
  returns : ∀ fuel, q.budget record < fuel → q.call fuel c = .ok (some (q', a))
  bounded : record.length + (if a.isFailed then 1 else 0) ≤ q.budget record

/-- A step that is refused is one of those still to be run. -/
theorem Visit.failed_le (h : q.Visit q' (some a)) :
    (if a.isFailed then 1 else 0) ≤ q.pending.length := by
  cases h with
  | ended => exact Nat.zero_le _
  | asked => exact Nat.zero_le _
  | short hstep | refused hstep =>
    have hcons : q.pending = _ := drop_cursor_of_some hstep
    rw [hcons]
    exact Nat.succ_le_succ (Nat.zero_le _)

theorem returns_start (hc : q.collector.Settled) (hstatus : q.status = .idle) :
    ∃ record q' a, q.Returns .start record q' a := by
  obtain ⟨record, q₁, q', a, htrail, hlast, hreturns⟩ :=
    halts_of_settled hc q.pending [] rfl (by simp) rfl
  have hlength : record.length + q₁.pending.length = q.budget record :=
    htrail.length_add hc (by simp)
  have hfailed := hlast.failed_le
  refine ⟨record, q', a, .started hstatus htrail hlast, fun fuel hfuel => ?_, by omega⟩
  simp only [call, start, hstatus]
  rw [hreturns fuel (by omega)]

theorem returns_provide (hc : q.collector.Settled) {i : Nat} {request : SelectionRequest}
    (hstatus : q.status = .awaiting i request) (hstep : q.steps[q.cursor]? = some step)
    (chosen : List InstanceId) : ∃ record q' a, q.Returns (.provide chosen) record q' a := by
  have hpending : q.pending = step :: q.steps.drop (q.cursor + 1) := drop_cursor_of_some hstep
  have hlength := congrArg List.length hpending
  rw [List.length_cons] at hlength
  cases hvalid : step.validate q.state chosen with
  | error refusal =>
    refine ⟨[], q, .rejected refusal request, .still (.rejected hstatus hstep hvalid) rfl,
      fun fuel _ => ?_, Nat.zero_le _⟩
    simp [call, provide, hstatus, hstep, hvalid]
  | ok =>
    cases hrun : step.run q.state chosen with
    | error refusal =>
      refine ⟨[], _, _, .still (.failed hstatus hstep hvalid hrun) rfl, fun fuel _ => ?_, ?_⟩
      · simp [call, provide, hstatus, hstep, hvalid, execute, hrun, fail]
      · simp only [SequencerAnswer.isFailed, if_true, List.length_nil, budget]
        omega
    | ok out =>
      have hnext := pending_accept hstep out (.running q.cursor)
      obtain ⟨record, q₁, q', a, htrail, hlast, hreturns⟩ :=
        halts_of_settled (q := { q with status := .running q.cursor }.accept out) hc _ _ rfl
          hc.unheard hnext
      have hcount := htrail.length_add hc fun other hother => by
        rw [hnext, List.take_left' rfl] at hother
        exact hc.unheard other hother
      have hbudget : q.budget (⟨false, out⟩ :: record) = q.pending.length +
          ((q.collector.responses out).length + (contributions q.collector record).length) := by
        simp [budget, contributions_cons]
      rw [hnext, List.length_append, collector_accept] at hcount
      have hfailed := hlast.failed_le
      refine ⟨_, q', a, .resumed hstatus hstep hvalid hrun htrail hlast, fun fuel hfuel => ?_, ?_⟩
      · simp only [call, provide, hstatus, hstep, hvalid, execute, hrun]
        rw [hreturns fuel (by omega)]
      · rw [List.length_cons]
        omega

/-- **Every call comes back.** With settled triggers a call is a fault, or it has an answer within
its budget. -/
theorem returns_of_settled (hc : q.collector.Settled) (c : SequencerCall) :
    (∃ fault, ∀ fuel, q.call fuel c = .error fault) ∨ ∃ record q' a, q.Returns c record q' a := by
  cases c with
  | start =>
    cases hstatus : q.status with
    | idle => exact .inr (returns_start hc hstatus)
    | _ => exact .inl ⟨.sequencer .idle, fun fuel => by simp [call, start, hstatus]⟩
  | provide chosen =>
    cases hstatus : q.status with
    | awaiting i request =>
      cases hstep : q.steps[q.cursor]? with
      | some step => exact .inr (returns_provide hc hstatus hstep chosen)
      | none =>
        exact .inl ⟨.sequencer .awaitingSelection, fun fuel => by
          simp [call, provide, hstatus, hstep]⟩
    | _ => exact .inl ⟨.sequencer .awaitingSelection, fun fuel => by simp [call, provide, hstatus]⟩
  | cancel =>
    cases hstatus : q.status with
    | awaiting i request =>
      cases hcancelable : request.cancelable with
      | true =>
        refine .inr ⟨[], _, _, .still (.cancelled hstatus hcancelable) rfl, fun fuel _ => ?_,
          Nat.zero_le _⟩
        simp [call, cancel, hstatus, hcancelable, Except.map]
      | false =>
        refine .inr ⟨[], _, _, .still (.kept hstatus hcancelable) rfl, fun fuel _ => ?_,
          Nat.zero_le _⟩
        simp [call, cancel, hstatus, hcancelable, Except.map]
    | _ =>
      exact .inl ⟨.sequencer .awaitingSelection, fun fuel => by
        simp [call, cancel, hstatus, Except.map]⟩

/-! ## Series of calls -/

theorem Answers.collector_eq {c : SequencerCall} (h : q.Answers c q' a) :
    q'.collector = q.collector :=
  h.preserves (P := fun r => r.collector = q.collector) (fun _ hr => hr) (fun hr _ _ => hr) rfl
    fun _ => rfl

/-- With settled triggers every series of calls comes back, given steps enough to visit. -/
theorem exists_play_of_settled (hc : q.collector.Settled) (calls : List SequencerCall) :
    ∃ enough, ∀ fuel, enough ≤ fuel → ∃ q' log, q.play fuel calls = some (q', log) := by
  induction calls generalizing q with
  | nil => exact ⟨0, fun fuel _ => ⟨q, [], rfl⟩⟩
  | cons c calls ih =>
    -- The call gives the same, whatever number of steps it may visit.
    obtain ⟨q₁, result, least, hsettled, hanswer⟩ : ∃ q₁ result least, q₁.collector.Settled ∧
        ∀ fuel, least < fuel → q.answer fuel c = some (q₁, result) := by
      rcases returns_of_settled hc c with ⟨fault, hfault⟩ | ⟨record, q₁, a, hreturns⟩
      · exact ⟨q, .error fault, 0, hc, fun fuel _ => by rw [answer, hfault]⟩
      · have hcall := hreturns.returns (q.budget record + 1) (Nat.lt_succ_self _)
        refine ⟨q₁, .ok a, q.budget record, ?_, fun fuel hfuel => ?_⟩
        · rw [(answers_of_call hcall).collector_eq]
          exact hc
        · rw [answer, hreturns.returns fuel hfuel]
    obtain ⟨enough, hplay⟩ := ih hsettled
    refine ⟨max (least + 1) enough, fun fuel hfuel => ?_⟩
    obtain ⟨q', log, hrest⟩ := hplay fuel (by omega)
    exact ⟨q', (c, result) :: log, playCalls_cons_eq_some.mpr
      ⟨q₁, result, log, hanswer fuel (by omega), hrest, rfl⟩⟩

end Sequencer

/-! ## Suspensions -/

/-- Whether an answer says that the run waits for cards. -/
def SequencerAnswer.isAwaiting : SequencerAnswer → Bool
  | .awaiting _ => true
  | _ => false

namespace CallLog

/-- Whether a call left the run suspended at a step. -/
def suspendedIn (entry : SequencerCall × CallResult) : Bool :=
  match entry.2 with
  | .ok a => a.isAwaiting
  | .error _ => false

/-- How often a series of calls left the run suspended at a step. -/
def suspensions (log : CallLog) : Nat := log.countP suspendedIn

end CallLog

namespace Sequencer

variable {q q₁ q' : Sequencer} {step : Step} {a : SequencerAnswer} {n : Nat}

/-- The steps before the cursor that wait for an answer become no fewer. -/
theorem Extends.countP_le (h : Extends q q') (p : Step → Bool) :
    (q.steps.take q.cursor).countP p ≤ (q'.steps.take q'.cursor).countP p := by
  rw [← h.take_eq, ← Nat.min_eq_left h.cursor_le, ← List.take_take]
  exact (List.take_sublist _ _).countP_le

/-- A run has been suspended at most as often as steps up to the cursor wait for an answer. -/
structure Suspended (n : Nat) (q : Sequencer) : Prop where
  idle : q.status = .idle → n = 0
  le_countP : n ≤ (q.steps.take (q.cursor + 1)).countP (·.isInteractive)

/-- A run that is suspended once more has got past the steps at which it was before. -/
theorem Visit.suspended (h : q₁.Visit q' (some a))
    (hbefore : n ≤ (q₁.steps.take q₁.cursor).countP (·.isInteractive)) :
    Suspended (n + if a.isAwaiting then 1 else 0) q' := by
  have hmore : (q₁.steps.take q₁.cursor).countP (·.isInteractive) ≤
      (q₁.steps.take (q₁.cursor + 1)).countP (·.isInteractive) :=
    (List.take_sublist_take_left (Nat.le_succ _)).countP_le
  cases h with
  | asked hstep hrequest =>
    have hwaits := Step.isInteractive_of_request hrequest
    refine ⟨by rintro ⟨⟩, ?_⟩
    dsimp only [SequencerAnswer.isAwaiting]
    rw [take_cursor_of_some hstep, List.countP_append, List.countP_singleton, hwaits]
    exact Nat.add_le_add_right hbefore 1
  | ended | short | refused => exact ⟨by rintro ⟨⟩, Nat.le_trans hbefore hmore⟩

theorem Answers.suspended {c : SequencerCall} (h : q.Answers c q' a) (hq : Suspended n q) :
    Suspended (n + if a.isAwaiting then 1 else 0) q' := by
  cases h with
  | started hstatus _ hlast =>
    refine hlast.suspended ?_
    rw [hq.idle hstatus]
    exact Nat.zero_le _
  | @resumed i request step chosen out q₁ q' a _ hstep _ _ hwalk hlast =>
    refine hlast.suspended (Nat.le_trans hq.le_countP ?_)
    have hpast := take_cursor_accept (q := { q with status := .running q.cursor }) hstep out
    have hcount := hwalk.extends.countP_le (·.isInteractive)
    rw [hpast, ← take_cursor_of_some hstep] at hcount
    exact hcount
  | rejected => exact hq
  | kept => exact hq
  | failed => exact ⟨by rintro ⟨⟩, hq.le_countP⟩
  | cancelled => exact ⟨by rintro ⟨⟩, hq.le_countP⟩

theorem suspended_of_play {fuel : Nat} {calls : List SequencerCall} {log : CallLog}
    (hq : Suspended n q) (h : q.play fuel calls = some (q', log)) :
    Suspended (n + log.suspensions) q' := by
  induction calls generalizing q n log with
  | nil =>
    cases h
    exact hq
  | cons c calls ih =>
    obtain ⟨q₁, result, rest, hanswer, hrest, rfl⟩ := playCalls_cons_eq_some.mp h
    have hfirst : Suspended (n + if CallLog.suspendedIn (c, result) then 1 else 0) q₁ := by
      rcases answers_of_answer hanswer with ⟨fault, rfl, rfl⟩ | ⟨a, rfl, hanswers⟩
      · exact hq
      · exact hanswers.suspended hq
    have hlater := ih hfirst hrest
    rw [CallLog.suspensions, List.countP_cons]
    rw [CallLog.suspensions] at hlater
    have hsum : n + (rest.countP CallLog.suspendedIn +
        if CallLog.suspendedIn (c, result) then 1 else 0) =
          (n + if CallLog.suspendedIn (c, result) then 1 else 0) +
            rest.countP CallLog.suspendedIn := by omega
    rw [hsum]
    exact hlater

/-- **A run is suspended at most as often as steps of it wait for an answer**, whatever calls were
made and whatever triggers answered. -/
theorem suspensions_le_of_play {s : Snapshot} {steps : List Step} {collector : Collector}
    {fuel : Nat} {calls : List SequencerCall} {log : CallLog}
    (h : (new s steps collector).play fuel calls = some (q, log)) :
    log.suspensions ≤ q.steps.countP (·.isInteractive) := by
  have hnew : Suspended 0 (new s steps collector) := ⟨fun _ => rfl, Nat.zero_le _⟩
  have hq := suspended_of_play hnew h
  rw [Nat.zero_add] at hq
  exact Nat.le_trans hq.le_countP (List.take_sublist _ _).countP_le

theorem collector_of_play {fuel : Nat} {calls : List SequencerCall} {log : CallLog}
    (h : q.play fuel calls = some (q', log)) : q'.collector = q.collector := by
  refine play_induction (P := fun r => r.collector = q.collector) ?_ rfl h
  intro r r' c result hr hanswer
  rcases answers_of_answer hanswer with ⟨fault, -, rfl⟩ | ⟨a, -, hanswers⟩
  · exact hr
  · exact hanswers.collector_eq.trans hr

/-- **Runs end.** Without triggers, with those of the library, and wherever else triggers do not
answer the events of the steps they contribute, every series of calls comes back, given steps enough
to visit. After it, the next call is a fault or comes back as well, and runs no more steps than were
pending and were contributed for events of those; and the run was suspended at most as often as
steps in its list wait for an answer. -/
theorem runs_end : Collector.silent.Settled ∧
    (∀ config, (Library.engine config).book.collect.Settled) ∧
    ∀ collector : Collector, collector.Settled → ∀ s steps calls,
      (∃ enough, ∀ fuel, enough ≤ fuel → ∃ q log,
        (new s steps collector).play fuel calls = some (q, log)) ∧
      ∀ fuel q log, (new s steps collector).play fuel calls = some (q, log) →
        (∀ c, (∃ fault, ∀ fuel, q.call fuel c = .error fault) ∨
          ∃ record q' a, q.Returns c record q' a) ∧
        log.suspensions ≤ q.steps.countP (·.isInteractive) := by
  refine ⟨Collector.silent_settled, fun config => ?_, fun collector hc s steps calls => ⟨?_, ?_⟩⟩
  · exact (Engine.filled_library (fun _ => False) config).stocked.settled
  · exact exists_play_of_settled (q := new s steps collector) hc calls
  · intro fuel q log h
    have hcollector : q.collector = collector := collector_of_play h
    refine ⟨fun c => returns_of_settled ?_ c, suspensions_le_of_play h⟩
    rw [hcollector]
    exact hc

/-- Answers a draw with a notice. -/
def chorus : Collector := fun _ event =>
  match event with
  | .cardsDrawn _ => [.notify "second" "second"]
  | _ => []

theorem chorus_settled : chorus.Settled := by
  intro s event step hstep t chosen out hrun
  cases event with
  | cardsDrawn =>
    obtain rfl := List.mem_singleton.mp hstep
    cases hrun
    rfl
  | _ => cases hstep

/-- A run with one step that triggers contribute and one suspension. -/
theorem runs_end_with_chorus : ∃ q log,
    (new cardless echoedSteps chorus).play 20 echoedCalls = some (q, log) ∧
      q.steps.map (·.id) = ["first", "second", "fifth"] ∧ log.suspensions = 1 ∧
      (∀ c, (∃ fault, ∀ fuel, q.call fuel c = .error fault) ∨
        ∃ record q' a, q.Returns c record q' a) ∧
      log.suspensions ≤ q.steps.countP (·.isInteractive) := by
  have hrun : ((new cardless echoedSteps chorus).play 20 echoedCalls).map
      (fun r => (r.1.steps.map (·.id), r.2.suspensions)) =
        some (["first", "second", "fifth"], 1) := by decide
  obtain ⟨⟨q, log⟩, hplay, heq⟩ := Option.map_eq_some_iff.mp hrun
  obtain ⟨hsteps, hsuspended⟩ := Prod.mk.inj heq
  obtain ⟨-, hafter⟩ := runs_end.2.2 chorus chorus_settled cardless echoedSteps echoedCalls
  exact ⟨q, log, hplay, hsteps, hsuspended, hafter 20 q log hplay⟩

end Sequencer

end SoloDuel
