import SoloDuel.Proofs.Engine.History
import SoloDuel.Proofs.Random.Shuffles
import SoloDuel.Proofs.Sequencer.Replay
import SoloDuel.Proofs.Step.Carried
/-!
# The generator of a duel

A snapshot keeps a generator between two shuffles only as a seed and a position, and every shuffle
makes one anew. All the same there is one generator in a duel: it is the one of the configured seed,
and it has shuffled what was shuffled on the way to the snapshot, in order, and nothing else.

* `Carried`, `Engine.Course` — the operations on the way to where a duel has got to. Cancelling an
  activation takes back those since its beginning.
* `Engine.exists_course_of_reachable` — every snapshot of a duel has a course.
* `Engine.Course.rng_eq` — the generator that a course leaves behind.
* `Engine.generator_never_drifts` — both, and what cancelling goes back to.
-/

namespace SoloDuel

open Snapshot

/-! ## One operation -/

/-- An operation of a duel, and the snapshot it was carried out on. -/
structure Carried where
  before : Snapshot
  operation : Operation

/-- The cards that were shuffled with it. -/
def Carried.shuffledDeck? (c : Carried) : Option (List CardInstance) :=
  c.operation.shuffledDeck? c.before

section Operations

variable {s : Snapshot} {out : Outcome} {o : Operation} {g : Generator}

/-- **A generator that a snapshot keeps has shuffled once more** after an operation that shuffles
the deck, and is the same after any other. -/
theorem Operation.Touches.rng_eq (h : o.Touches s out) (hg : g.Within) (hs : s.rng = g.state) :
    out.state.rng = (g.afterShuffles (o.shuffledDeck? s).toList).state := by
  cases h with
  | board hnone hboard _ =>
    rw [hnone, hboard.rng_eq]
    exact hs
  | life hnone _ hout _ =>
    rw [hnone, hout]
    exact hs
  | @shuffled t hsome hboard hout _ =>
    have hkept : Generator.ofState t.rng = g := by
      rw [hboard.rng_eq, hs, Generator.ofState_state hg]
    have hshuffle :
        t.shuffle.rng = ((Generator.ofState t.rng).shuffle (t.zone .deck)).2.state := rfl
    rw [hsome, hout, hshuffle, hkept]
    rfl

end Operations

namespace Sequencer

/-! ## Runs -/

/-- What a visit or a choice makes of a run, and the operation that is carried out with it. -/
inductive Carries (q : Sequencer) : Option Operation → Sequencer → Prop
  /-- No step runs. -/
  | paused (status : SequencerStatus) : Carries q none { q with status := status }
  /-- The step at the cursor runs. -/
  | ran (status : SequencerStatus) {step : Step} {chosen : List InstanceId} {out : Outcome}
      {o : Option Operation} : q.steps[q.cursor]? = some step → step.run q.state chosen = .ok out →
      step.CarriesOut chosen o → Carries q o ({ q with status := status }.accept out)

variable {q q' : Sequencer}

theorem Operates.carries (hq : q.Operates) (h : q.Advances q') :
    q'.Operates ∧ ∃ o, q.Carries o q' := by
  cases h with
  | paused status => exact ⟨⟨hq.steps, hq.collector⟩, none, .paused status⟩
  | @ran status step chosen out hstep hrun =>
    obtain ⟨o, ho⟩ := hq.steps step (List.mem_of_getElem? hstep) chosen
    have hkept : ({ q with status := status } : Sequencer).Operates := ⟨hq.steps, hq.collector⟩
    exact ⟨hkept.accept out, o, .ran status hstep hrun ho⟩

theorem Carries.initial_eq {o : Option Operation} (h : q.Carries o q') :
    q'.initial = q.initial := by
  cases h <;> rfl

/-- What a step of a run does to the generator. -/
theorem Carries.rng_eq {o : Option Operation} (h : q.Carries o q') {g : Generator} (hg : g.Within)
    (hs : q.state.rng = g.state) :
    q'.state.rng = (g.afterShuffles (o.bind (·.shuffledDeck? q.state)).toList).state := by
  cases h with
  | paused => exact hs
  | ran status hstep hrun hcarries =>
    obtain ⟨p, rfl, htouches⟩ | ⟨rfl, hidle⟩ := hcarries.spec hrun
    · exact htouches.rng_eq hg hs
    · exact hidle.rng.trans hs

end Sequencer

namespace Engine

variable {e : Engine} {deck : List CardId} {scripts : Script → Prop} {s t : Snapshot}
  {m : Moment} {done since : List Carried}

/-! ## Courses -/

/-- The operations on the way from the opening to where a duel has got to: those that are done for
good, and those since the beginning of an activation, which cancelling takes back. -/
inductive Course (e : Engine) (deck : List CardId) :
    List Carried → List Carried → Moment → Prop
  | opening {s : Snapshot} : e.newGame deck = .ok s → Course e deck [] [] (.between s)
  | operation {done : List Carried} {s : Snapshot} {o : Operation} {out : Outcome} :
      Course e deck done [] (.between s) → o.perform s = .ok out →
      Course e deck (done ++ [⟨s, o⟩]) [] (.between out.state)
  | command {done : List Carried} {s : Snapshot} {c : Command} {out : Outcome} :
      Course e deck done [] (.between s) → c.perform e s = .ok out →
      Course e deck done [] (.between out.state)
  | activate {done : List Carried} {s : Snapshot} {source : InstanceId}
      {category : EffectCategory} {q : Sequencer} : Course e deck done [] (.between s) →
      e.activate s source category = .ok (.ready q) → Course e deck done [] (.during q)
  /-- The activation is visited, or the player chooses cards. -/
  | step {done since : List Carried} {q q' : Sequencer} {d : Deed} {o : Option Operation} :
      Course e deck done since (.during q) → e.Does (.during q) d (.during q') →
      q.Carries o q' →
      Course e deck done (since ++ (o.map (Carried.mk q.state)).toList) (.during q')
  | cancel {done since : List Carried} {q q' : Sequencer} :
      Course e deck done since (.during q) → e.Does (.during q) .cancel (.during q') →
      Course e deck done [] (.during q')
  /-- The duel goes on with the snapshot that the activation has got to. -/
  | leave {done since : List Carried} {q : Sequencer} : Course e deck done since (.during q) →
      Course e deck (done ++ since) [] (.between q.state)

/-- Between two plays nothing is taken back. -/
theorem Course.since_eq_nil (h : e.Course deck done since (.between s)) : since = [] := by
  cases h <;> rfl

/-- In the middle of an activation, it can be said which operations its steps are. -/
def Operating : Moment → Prop
  | .between _ => True
  | .during q => q.Operates

/-- What is done in a duel goes on with its course. -/
theorem Course.run (he : e.Stocked scripts) (h : e.Course deck done [] (.between s))
    {history : List Entry} (hrun : e.Run s history m) :
    Operating m ∧ ∃ done since, e.Course deck done since m := by
  induction hrun with
  | start => exact ⟨trivial, _, _, h⟩
  | does _ hdoes ih =>
    obtain ⟨hm, done, since, hcourse⟩ := ih
    cases hdoes with
    | command hperform =>
      obtain rfl := hcourse.since_eq_nil
      exact ⟨trivial, _, _, hcourse.command hperform⟩
    | refusedCommand | refusedActivation => exact ⟨trivial, _, _, hcourse⟩
    | activate hready =>
      obtain rfl := hcourse.since_eq_nil
      exact ⟨he.operates hready, _, _, hcourse.activate hready⟩
    | @visit q hgoes =>
      obtain ⟨hq', o, hcarries⟩ := Sequencer.Operates.carries hm q.advances_visit
      exact ⟨hq', _, _, hcourse.step (.visit hgoes) hcarries⟩
    | @choose q i request step chosen hstatus hstep hvalid =>
      obtain ⟨hq', o, hcarries⟩ := Sequencer.Operates.carries hm
        (Sequencer.advances_execute hstep (.running q.cursor) chosen)
      exact ⟨hq', _, _, hcourse.step (.choose hstatus hstep hvalid) hcarries⟩
    | @cancel q q' t hcancel =>
      obtain ⟨-, rfl⟩ := Sequencer.eq_of_cancel hcancel
      exact ⟨⟨hm.steps, hm.collector⟩, _, _, hcourse.cancel (.cancel hcancel)⟩
    | leave => exact ⟨trivial, _, _, hcourse.leave⟩

/-- **Every snapshot of a duel has a course.** -/
theorem exists_course_of_reachable (he : e.Stocked scripts) (h : e.Reachable deck s) :
    ∃ done, e.Course deck done [] (.between s) := by
  induction h with
  | opening hopening => exact ⟨_, .opening hopening⟩
  | operation _ hperform ih =>
    obtain ⟨done, hcourse⟩ := ih
    exact ⟨_, hcourse.operation hperform⟩
  | command _ hperform ih =>
    obtain ⟨done, hcourse⟩ := ih
    exact ⟨_, hcourse.command hperform⟩
  | activation _ hactivate hplay ih =>
    obtain ⟨done, hcourse⟩ := ih
    obtain ⟨⟨more, hmore⟩, -⟩ := (Run.start.does (.activate hactivate)).play hplay
    obtain ⟨-, done, since, hlater⟩ := hcourse.run he hmore
    exact ⟨_, hlater.leave⟩
  | answer _ hactivate hplay hmem hstate ih =>
    obtain ⟨done, hcourse⟩ := ih
    obtain ⟨-, hanswers⟩ := (Run.start.does (.activate hactivate)).play hplay
    obtain ⟨more, q₁, hmore, rfl⟩ := hanswers _ _ _ hmem hstate
    obtain ⟨-, done, since, hlater⟩ := hcourse.run he hmore
    exact ⟨_, hlater.leave⟩

/-! ## Commands -/

/-- The generator is kept as it is. -/
def KeepsRng (s t : Snapshot) : Prop := t.rng = s.rng

theorem settles_keepsRng : Settles KeepsRng where
  refl := fun _ => rfl
  trans := fun h₁ h₂ => h₂.trans h₁
  sent := fun h => (boardOnly_of_moveCard h).rng_eq
  drawn := fun h => (boardOnly_of_draw h).rng_eq
  decided := fun _ _ _ _ => rfl

theorem rng_advancePhase (s : Snapshot) : s.advancePhase.rng = s.rng := by
  unfold advancePhase
  split
  · rfl
  · split <;> rfl

theorem rng_advanceWithin (target : Phase) (n : Nat) (s : Snapshot) :
    (s.advanceWithin target n).rng = s.rng := by
  induction n generalizing s with
  | zero => rfl
  | succ n ih =>
    unfold advanceWithin
    split
    · rfl
    · rw [ih, rng_advancePhase]

/-- **No command shuffles.** -/
theorem rng_of_command (hbook : e.book.Replaces KeepsRng) {c : Command} {out : Outcome}
    (h : c.perform e s = .ok out) : out.state.rng = s.rng := by
  cases c with
  | drawForTurn | settle | evaluateVictory | destroy | applySelfDestruction =>
    exact of_settling settles_keepsRng hbook rfl h
  | advancePhase =>
    cases h
    exact rng_advancePhase s
  | advanceTo target =>
    cases h
    exact rng_advanceWithin target 4 s
  | normalSummon | setMonster =>
    obtain ⟨card, set, -, -, -, hset, hout⟩ := exists_of_summonFromHand h
    rw [hout]
    exact (boardOnly_of_setCard hset).rng_eq
  | specialSummon =>
    obtain ⟨card, moved, -, -, hmove, hout⟩ := exists_of_specialSummon h
    rw [hout]
    exact (boardOnly_of_moveToField hmove).rng_eq
  | setSpellTrap =>
    obtain ⟨card, -, -, hset⟩ := e.exists_of_setSpellTrap h
    exact (boardOnly_of_setCard hset).rng_eq

theorem Stocked.replaces_keepsRng (he : e.Stocked scripts) : e.book.Replaces KeepsRng := by
  intro rule hrule s ctx replaced out hreplace hout
  obtain rfl := Library.eq_citadelProtection_of_replace (he.rules rule hrule) hreplace
  obtain ⟨c, -, rfl⟩ := Option.map_eq_some_iff.mp hreplace
  obtain ⟨removed, hremove, hout⟩ := bind_eq_ok.mp hout
  cases hout
  exact (boardOnly_of_removeCounters hremove).rng_eq

/-! ## The generator -/

/-- The one generator of a duel after it has opened and the operations of a course. -/
def liveGenerator (e : Engine) (deck : List CardId) (course : List Carried) : Generator :=
  (e.config.deckOrder deck).2.afterShuffles (course.filterMap (·.shuffledDeck?))

theorem within_deckOrder {α : Type} (config : DuelConfig) (cards : List α) :
    (config.deckOrder cards).2.Within := by
  unfold DuelConfig.deckOrder
  split
  · exact (Generator.within_ofSeed _).shuffle cards
  · exact Generator.within_ofSeed _

theorem within_liveGenerator (e : Engine) (deck : List CardId) (course : List Carried) :
    (e.liveGenerator deck course).Within :=
  (within_deckOrder e.config deck).afterShuffles _

theorem liveGenerator_append (e : Engine) (deck : List CardId) (course more : List Carried) :
    e.liveGenerator deck (course ++ more) =
      (e.liveGenerator deck course).afterShuffles (more.filterMap (·.shuffledDeck?)) := by
  rw [liveGenerator, List.filterMap_append, Generator.afterShuffles_append]
  rfl

/-- How far the opening shuffle draws depends on the length of the deck list alone. -/
theorem deckOrder_snd {α β : Type} (config : DuelConfig) {cards : List α} {others : List β}
    (h : cards.length = others.length) :
    (config.deckOrder cards).2 = (config.deckOrder others).2 := by
  unfold DuelConfig.deckOrder
  split
  · rw [Generator.shuffle_snd, Generator.shuffle_snd, h]
  · rfl

theorem rng_of_newGame (h : e.newGame deck = .ok s) :
    s.rng = (e.liveGenerator deck []).state := by
  obtain ⟨-, -, species, hspecies, rfl⟩ := exists_of_opening h
  have hlength : (Board.copies species).length = deck.length := by
    rw [hspecies.length_eq]
    simpa using congrArg List.length (Board.map_id_copies species)
  exact congrArg Generator.state (deckOrder_snd e.config hlength)

/-- The snapshot at hand keeps the one generator, and so does the snapshot that cancelling goes back
to. -/
structure Course.Kept (e : Engine) (deck : List CardId) (done since : List Carried) (m : Moment) :
    Prop where
  state : m.state.rng = (e.liveGenerator deck (done ++ since)).state
  initial : ∀ q, m = .during q → q.initial.rng = (e.liveGenerator deck done).state

theorem Course.Kept.of_between (h : s.rng = (e.liveGenerator deck done).state) :
    Course.Kept e deck done [] (.between s) where
  state := by rwa [List.append_nil]
  initial := by rintro q ⟨⟩

/-- **The generator that a course leaves behind.** -/
theorem Course.kept (hbook : e.book.Replaces KeepsRng) (h : e.Course deck done since m) :
    Course.Kept e deck done since m := by
  induction h with
  | opening hopening => exact .of_between (rng_of_newGame hopening)
  | @operation done s o out _ hperform ih =>
    have hstate : s.rng = (e.liveGenerator deck done).state := by
      simpa [Moment.state] using ih.state
    refine .of_between ?_
    rw [(Operation.touches_of_perform hperform).rng_eq (within_liveGenerator e deck done) hstate,
      liveGenerator_append]
    cases hdeck : o.shuffledDeck? s <;> simp [Carried.shuffledDeck?, hdeck]
  | command _ hperform ih =>
    refine .of_between ((rng_of_command hbook hperform).trans ?_)
    simpa [Moment.state] using ih.state
  | activate _ hready ih =>
    obtain ⟨effect, -, -, rfl⟩ := activate_eq_ready_iff.mp hready
    refine ⟨ih.state, ?_⟩
    rintro q ⟨⟩
    simpa [Moment.state, Sequencer.new] using ih.state
  | @step done since q q' d o _ _ hcarries ih =>
    refine ⟨?_, ?_⟩
    · have hstep := hcarries.rng_eq (within_liveGenerator e deck (done ++ since)) ih.state
      rw [← List.append_assoc, liveGenerator_append]
      refine hstep.trans ?_
      cases o with
      | none => rfl
      | some p => cases hdeck : p.shuffledDeck? q.state <;> simp [Carried.shuffledDeck?, hdeck]
    · rintro r ⟨⟩
      rw [hcarries.initial_eq]
      exact ih.initial q rfl
  | @cancel done since q q' _ hdoes ih =>
    have hback := ih.initial q rfl
    cases hdoes with
    | cancel hcancel =>
      obtain ⟨-, rfl⟩ := Sequencer.eq_of_cancel hcancel
      refine ⟨?_, ?_⟩
      · rw [List.append_nil]
        exact hback
      · rintro r ⟨⟩
        exact hback
  | leave _ ih => exact .of_between ih.state

/-- **The kept generator never drifts from the one generator of the duel.** Every snapshot of a duel
with the library and scripts has a course, and wherever a course has got to, what the snapshot keeps
is the generator of the configured seed after the opening shuffle, if the deck is shuffled, and one
shuffle of the deck at hand for each search, each card added from the deck and each shuffle on the
way. Refused operations and activations given up shuffle no more than that. Whatever an engine
holds, cancelling an activation goes back to exactly the snapshot before it, where the same
activation is ready again. -/
theorem generator_never_drifts (e : Engine) (deck : List CardId) :
    (∀ scripts, e.Filled scripts →
      (∀ s, e.Reachable deck s → ∃ done, e.Course deck done [] (.between s)) ∧
      ∀ done since m, e.Course deck done since m →
        m.state.rng = (e.liveGenerator deck (done ++ since)).state) ∧
    ∀ s source category q fuel calls q' log c t,
      e.activate s source category = .ok (.ready q) → q.play fuel calls = some (q', log) →
      (c, .ok (.cancelled t)) ∈ log →
      t = s ∧ q'.state = s ∧ e.activate q'.state source category = .ok (.ready q) := by
  refine ⟨fun scripts he => ⟨fun s hs => ?_, fun done since m hcourse => ?_⟩, ?_⟩
  · exact exists_course_of_reachable he.stocked hs
  · exact (hcourse.kept he.stocked.replaces_keepsRng).state
  · intro s source category q fuel calls q' log c t hactivate hplay hmem
    obtain ⟨effect, -, -, rfl⟩ := activate_eq_ready_iff.mp hactivate
    obtain ⟨ht, hback⟩ := Sequencer.state_eq_of_cancelled (Sequencer.new_consistent _ _ _)
      (Sequencer.new_within _ _ _) hplay hmem
    exact ⟨ht, hback, hback ▸ hactivate⟩

/-- An engine in which Pot of Greed searches and then asks, so that it can still be cancelled. -/
def hesitant : Engine :=
  let effect := (CardEffect.new Passcode.potOfGreed .normalSpell).resolving fun _ _ =>
    .search .any :: Sequencer.promptedSteps
  { Library.engine unshuffled with
    effects := (EffectTable.empty.register effect).1 }

/-- After the opening shuffle of four cards and one of the two that a search leaves, five words were
drawn. An activation that searches and is then cancelled leaves the generator as it was. -/
theorem generator_after_search_and_cancel :
    (∃ s out, (Library.engine { openingHand := 1, seed := 1 }).newGame fourPots = .ok s ∧
      s.search (Board.entryId 0) = .ok out ∧ out.state.rng = ⟨1, 5⟩ ∧
      out.state.rng = ((((Generator.ofSeed 1).shuffle fourPots).2.shuffle
        ((s.zone .deck).eraseP (·.id = Board.entryId 0))).2).state) ∧
    ∃ s q q' log, hesitant.activate s (Board.entryId 3) .activation = .ok (.ready q) ∧
      q.play 20 [.start, .provide [Board.entryId 0], .cancel] = some (q', log) ∧
      log.hasCancelled = true ∧ q'.state = s ∧
      hesitant.activate q'.state (Board.entryId 3) .activation = .ok (.ready q) := by
  constructor
  · let e := Library.engine { openingHand := 1, seed := 1 }
    have hsearched : ((e.newGame fourPots).toOption.bind fun s =>
        (s.search (Board.entryId 0)).toOption.map (·.state.rng)) = some ⟨1, 5⟩ := by
      decide +kernel
    obtain ⟨s, hopening, hsearched⟩ := Option.bind_eq_some_iff.mp hsearched
    obtain ⟨out, hsearch, hrng⟩ := Option.map_eq_some_iff.mp hsearched
    have hopening := eq_ok_of_toOption hopening
    have hsearch := eq_ok_of_toOption hsearch
    have hcourse : e.Course fourPots [⟨s, .search (Board.entryId 0)⟩] [] (.between out.state) :=
      (Course.opening hopening).operation (o := .search (Board.entryId 0)) hsearch
    have hkept := ((generator_never_drifts e fourPots).1 (fun _ => False) (filled_library _ _)).2
      _ _ _ hcourse
    exact ⟨s, out, hopening, hsearch, hrng, hkept⟩
  · have hrun : ((firstReady hesitant fourPots (Board.entryId 3)).bind fun r =>
        (r.2.play 20 [.start, .provide [Board.entryId 0], .cancel]).map
          fun r => r.2.hasCancelled) = some true := by
      decide +kernel
    obtain ⟨⟨s, q⟩, hready, hrun⟩ := Option.bind_eq_some_iff.mp hrun
    obtain ⟨⟨q', log⟩, hplay, hcancelled⟩ := Option.map_eq_some_iff.mp hrun
    obtain ⟨-, hactivate⟩ := of_firstReady hready
    obtain ⟨c, t, hmem⟩ := CallLog.exists_of_hasCancelled hcancelled
    obtain ⟨-, hback, hagain⟩ := (generator_never_drifts hesitant fourPots).2 _ _ _ _ _ _ _ _ _ _
      hactivate hplay hmem
    exact ⟨s, q, q', log, hactivate, hplay, hcancelled, hback, hagain⟩

end Engine

end SoloDuel
