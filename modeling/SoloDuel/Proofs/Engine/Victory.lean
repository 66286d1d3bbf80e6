import SoloDuel.Proofs.Engine.Decided
import SoloDuel.Proofs.Engine.History
/-!
# Victory

Several things can end a duel at once, and only the order in which they are looked at tells them
apart. Once it is decided, a duel stays decided the same way, whatever is done to it: operations,
which the rules have no say in, commands and activations.

* `Rule.Wins`, `RuleBook.Verdict` — what decides a duel, and in which order.
* `RuleBook.verdict_settleResult` — evaluating a snapshot gives that verdict.
* `Engine.Proceeds` — whatever can be done in a duel; `result_eq_of_proceeds` says what it leaves of
  a verdict.
* `Engine.verdicts_stand` — both together.
-/

namespace SoloDuel

open Snapshot

/-! ## What decides a duel -/

/-- The rule is a victory condition that has a say on a snapshot and holds there. -/
def Rule.Wins (rule : Rule) (s : Snapshot) : Prop :=
  rule.category = .victoryCondition ∧ rule.canApply s (.victory .player) = true ∧
    rule.permits s (.victory .player) = true

instance (rule : Rule) (s : Snapshot) : Decidable (rule.Wins s) :=
  inferInstanceAs (Decidable (_ ∧ _ ∧ _))

theorem Snapshot.result_of_not_isTerminal {s : Snapshot} (h : s.isTerminal = false) :
    s.result = .ongoing := by
  cases hresult : s.result with
  | ongoing => rfl
  | decided =>
    rw [isTerminal, hresult] at h
    cases h

namespace RuleBook

variable {book : RuleBook} {s t : Snapshot} {drawDue : Bool}

/-- What a snapshot becomes when its result is brought up to date. -/
structure Verdict (book : RuleBook) (s : Snapshot) (drawDue : Bool) (t : Snapshot) : Prop where
  /-- Nothing but the result changes. -/
  frame : t = { s with result := t.result }
  /-- A decided duel stays as it is. -/
  kept : s.isTerminal = true → t = s
  /-- An open duel is decided exactly when a victory condition holds, a side has no life left, or a
  card has to be drawn from an empty deck. -/
  decides_iff : s.isTerminal = false → (t.isTerminal = true ↔
    (∃ rule ∈ book.rules.values, rule.Wins s) ∨ (∃ side, s.life.get side ≤ 0) ∨
      (drawDue = true ∧ s.count .deck = 0))
  /-- Otherwise it stays as it is. -/
  undecided : s.isTerminal = false → t.isTerminal = false → t = s
  /-- Victory conditions come first, and among them the one that was registered first. -/
  rule : s.isTerminal = false → ∀ before rule after,
    book.rules.values = before ++ rule :: after → rule.Wins s → (∀ r ∈ before, ¬ r.Wins s) →
      t.result = .decided .player (.special rule.id rule.name)
  /-- Then comes the player's life. -/
  player : s.isTerminal = false → (∀ rule ∈ book.rules.values, ¬ rule.Wins s) →
    s.life.player ≤ 0 → t.result = .decided .opponent .lifeDepleted
  /-- Then comes the opponent's life. -/
  opponent : s.isTerminal = false → (∀ rule ∈ book.rules.values, ¬ rule.Wins s) →
    0 < s.life.player → s.life.opponent ≤ 0 → t.result = .decided .player .lifeDepleted
  /-- An empty deck comes last. -/
  deckOut : s.isTerminal = false → (∀ rule ∈ book.rules.values, ¬ rule.Wins s) →
    0 < s.life.player → 0 < s.life.opponent → drawDue = true → s.count .deck = 0 →
      t.result = .decided .opponent .deckOut

/-! ## Evaluating -/

/-- The two filters and the search are one search. -/
theorem victory?_eq (book : RuleBook) (s : Snapshot) :
    book.victory? s = book.rules.values.find? fun rule => rule.Wins s := by
  rw [victory?, applicable, ofCategory_eq, List.find?_filter, List.find?_filter]
  congr 1
  funext rule
  rw [Bool.eq_iff_iff]
  simp only [decide_eq_true_iff]
  exact .rfl

theorem victory?_eq_none (h : ∀ rule ∈ book.rules.values, ¬ rule.Wins s) :
    book.victory? s = none := by
  rw [victory?_eq, List.find?_eq_none]
  exact fun rule hrule hwins => h rule hrule (of_decide_eq_true hwins)

/-- Among the rules that win it is the first. -/
theorem victory?_eq_some {before after : List Rule} {rule : Rule}
    (h : book.rules.values = before ++ rule :: after) (hwins : rule.Wins s)
    (hbefore : ∀ r ∈ before, ¬ r.Wins s) : book.victory? s = some rule := by
  rw [victory?_eq, List.find?_eq_some_iff_append]
  exact ⟨decide_eq_true hwins, before, after, h, fun r hr => by simpa using hbefore r hr⟩

theorem depleted?_of_player (h : s.life.player ≤ 0) : depleted? s = some .player :=
  List.find?_cons_of_pos (decide_eq_true h)

theorem depleted?_of_opponent (hplayer : 0 < s.life.player) (h : s.life.opponent ≤ 0) :
    depleted? s = some .opponent := by
  have hopen : ¬ s.life.get .player ≤ 0 := Int64.not_le.mpr hplayer
  rw [depleted?, Side.all, List.find?_cons_of_neg (by simpa using hopen)]
  exact List.find?_cons_of_pos (decide_eq_true h)

theorem depleted?_eq_none_iff : depleted? s = none ↔ ∀ side, ¬ s.life.get side ≤ 0 := by
  rw [depleted?, List.find?_eq_none]
  constructor
  · intro h side
    have hmem : side ∈ Side.all := by cases side <;> decide
    simpa using h side hmem
  · intro h side _
    simpa using h side

/-- Bringing the result up to date writes down how the duel stands. -/
theorem settleResult_eq (book : RuleBook) (s : Snapshot) (drawDue : Bool) :
    book.settleResult s drawDue = { s with result := book.evaluate s drawDue } := by
  cases hs : s.isTerminal with
  | true =>
    have hsame : book.evaluate s drawDue = s.result := if_pos hs
    rw [settleResult_of_isTerminal book hs, hsame]
  | false =>
    unfold settleResult
    dsimp only
    split
    · rfl
    · rename_i hover
      cases hresult : book.evaluate s drawDue with
      | ongoing => rw [← result_of_not_isTerminal hs]
      | decided =>
        rw [hresult] at hover
        exact absurd ⟨rfl, by simp [hs]⟩ hover

/-- An open duel is over exactly when something ends it. -/
theorem isTerminal_evaluate_iff (hs : s.isTerminal = false) :
    (book.evaluate s drawDue).isTerminal = true ↔
      (∃ rule ∈ book.rules.values, rule.Wins s) ∨ (∃ side, s.life.get side ≤ 0) ∨
        (drawDue = true ∧ s.count .deck = 0) := by
  unfold evaluate
  rw [if_neg (by simp [hs])]
  cases hvictory : book.victory? s with
  | some rule =>
    rw [victory?_eq] at hvictory
    have hwins : rule.Wins s := by simpa using List.find?_some hvictory
    exact ⟨fun _ => .inl ⟨rule, List.mem_of_find?_eq_some hvictory, hwins⟩, fun _ => rfl⟩
  | none =>
    have hnone : ¬ ∃ rule ∈ book.rules.values, rule.Wins s := by
      rintro ⟨rule, hrule, hwins⟩
      rw [victory?_eq, List.find?_eq_none] at hvictory
      exact hvictory rule hrule (decide_eq_true hwins)
    cases hlife : depleted? s with
    | some side =>
      have hdepleted : s.life.get side ≤ 0 := by simpa using List.find?_some hlife
      exact ⟨fun _ => .inr (.inl ⟨side, hdepleted⟩), fun _ => rfl⟩
    | none =>
      have halive : ¬ ∃ side, s.life.get side ≤ 0 := fun ⟨side, h⟩ =>
        depleted?_eq_none_iff.mp hlife side h
      simp only [hnone, halive, false_or]
      split
      · rename_i hout
        exact ⟨fun _ => hout, fun _ => rfl⟩
      · rename_i hin
        exact ⟨fun h => (by cases h), fun hout => absurd hout hin⟩

/-- **Evaluating a snapshot gives the verdict.** -/
theorem verdict_settleResult (book : RuleBook) (s : Snapshot) (drawDue : Bool) :
    book.Verdict s drawDue (book.settleResult s drawDue) := by
  have hopen : s.isTerminal = false → ¬ s.isTerminal = true := fun h => by simp [h]
  rw [settleResult_eq]
  refine ⟨rfl, fun hs => ?_, isTerminal_evaluate_iff, fun hs hstill => ?_, ?_, ?_, ?_, ?_⟩
  · rw [← settleResult_eq, settleResult_of_isTerminal book hs]
  · have hongoing : book.evaluate s drawDue = .ongoing := result_of_not_isTerminal hstill
    rw [hongoing, ← result_of_not_isTerminal hs]
  · intro hs before rule after hvalues hwins hbefore
    dsimp only [evaluate]
    rw [if_neg (hopen hs), victory?_eq_some hvalues hwins hbefore]
  · intro hs hnone hplayer
    dsimp only [evaluate]
    rw [if_neg (hopen hs), victory?_eq_none hnone, depleted?_of_player hplayer]
    rfl
  · intro hs hnone hplayer hopponent
    dsimp only [evaluate]
    rw [if_neg (hopen hs), victory?_eq_none hnone, depleted?_of_opponent hplayer hopponent]
    rfl
  · intro hs hnone hplayer hopponent hdue hdeck
    have halive : depleted? s = none := depleted?_eq_none_iff.mpr fun side => by
      cases side with
      | player => exact Int64.not_le.mpr hplayer
      | opponent => exact Int64.not_le.mpr hopponent
    dsimp only [evaluate]
    rw [if_neg (hopen hs), victory?_eq_none hnone, halive]
    exact if_pos ⟨hdue, hdeck⟩

end RuleBook

/-! ## What a verdict survives -/

namespace Snapshot

/-- The result is the same afterwards. -/
def SameResult (s t : Snapshot) : Prop := t.result = s.result

/-- A decided duel is decided the same way afterwards. -/
def Stands (s t : Snapshot) : Prop := s.isTerminal = true → t.result = s.result

variable {s t u : Snapshot}

theorem SameResult.refl (s : Snapshot) : SameResult s s := rfl

theorem SameResult.trans (h₁ : SameResult s t) (h₂ : SameResult t u) : SameResult s u :=
  Eq.trans h₂ h₁

theorem SameResult.stands (h : SameResult s t) : Stands s t := fun _ => h

theorem Stands.trans (h₁ : Stands s t) (h₂ : Stands t u) : Stands s u := by
  intro hs
  have ht : t.isTerminal = true := by
    rw [isTerminal, h₁ hs]
    exact hs
  rw [h₂ ht, h₁ hs]

theorem Handles.sameResult (h : Handles s t) : SameResult s t := by
  rw [h.eq]
  exact .refl s

/-- Only a duel that is not over is decided. -/
theorem covers_stands : Covers Stands where
  trans := .trans
  handles := fun h => h.sameResult.stands
  summonUsed := fun s => (SameResult.refl s).stands
  decided := fun s winner reason hopen hs => by
    rw [hopen] at hs
    cases hs

end Snapshot

namespace Engine

variable {e : Engine} {s : Snapshot} {m m' : Moment} {scripts : Script → Prop}

/-- Whatever can be done in a duel: a deed, or an operation, which the rules have no say in. -/
inductive Proceeds (e : Engine) : Moment → Moment → Prop
  | does {m m' : Moment} {d : Deed} : e.Does m d m' → Proceeds e m m'
  | operation {s : Snapshot} {o : Operation} {out : Outcome} : o.perform s = .ok out →
      Proceeds e (.between s) (.between out.state)

/-- A command leaves a verdict standing. -/
theorem stands_of_command (hbook : e.book.Replaces Stands) {c : Command} {out : Outcome}
    (h : c.perform e s = .ok out) : Stands s out.state := by
  cases hc : c.advances with
  | false => exact of_command covers_stands hbook hc h
  | true =>
    intro hs
    have hdestroys : c.destroys = false := by cases c <;> first | rfl | cases hc
    rw [eq_of_command_of_isTerminal hs hdestroys h]

/-- Steps of activations never write a result. -/
theorem lawful_sameResult (he : e.Stocked scripts) {source : InstanceId}
    {category : EffectCategory} {q : Sequencer}
    (h : e.activate s source category = .ok (.ready q)) : q.Lawful SameResult s := by
  have habides : e.Abides SameResult := he.ordinary.abides Handles.sameResult
  refine habides.lawful .trans Handles.sameResult (fun s source effect once => ?_) h
  cases once <;> exact .refl s

/-- **Whatever is done, a verdict stands.** -/
theorem stands_of_proceeds (he : e.Stocked scripts) (hm : m.Lawful SameResult)
    (h : e.Proceeds m m') : m'.Lawful SameResult ∧ Stands m.state m'.state := by
  cases h with
  | operation hperform => exact ⟨trivial, (handles_of_operation hperform).sameResult.stands⟩
  | does hdoes =>
    obtain ⟨hlawful, hupshot⟩ :=
      hdoes.upshot .refl .trans (fun _ _ _ _ hready => lawful_sameResult he hready) hm
    refine ⟨hlawful, ?_⟩
    cases hupshot with
    | command _ hperform hstate =>
      rw [hstate]
      exact stands_of_command (he.replaces_handles.mono fun h => h.sameResult.stands) hperform
    | cancelled _ _ _ hback => exact SameResult.stands hback.symm
    | related _ hrelated => exact hrelated.stands

/-- **A verdict is final.** From a decided duel on the result stays the same. -/
theorem result_eq_of_proceeds (he : e.Stocked scripts)
    (hbefore : Relation.ReflTransGen e.Proceeds (.between s) m)
    (hafter : Relation.ReflTransGen e.Proceeds m m') (hm : m.state.isTerminal = true) :
    m'.state.result = m.state.result := by
  have hlawful : m.Lawful SameResult := by
    clear hafter hm
    induction hbefore with
    | refl => trivial
    | tail _ hstep ih => exact (stands_of_proceeds he ih hstep).1
  have hstands : m'.Lawful SameResult ∧ Stands m.state m'.state := by
    induction hafter with
    | refl => exact ⟨hlawful, (SameResult.refl _).stands⟩
    | tail _ hstep ih =>
      obtain ⟨hnext, hstand⟩ := stands_of_proceeds he ih.1 hstep
      exact ⟨hnext, ih.2.trans hstand⟩
  exact hstands.2 hm

/-- With an empty deck, drawing for the turn decides the duel. -/
theorem isTerminal_of_drawForTurn {t : Snapshot} (hdeck : s.count .deck = 0)
    (h : e.drawForTurn s = .ok t) : t.isTerminal = true := by
  unfold drawForTurn at h
  split at h
  · cases h
  · rename_i hopen
    split at h
    · cases h
    · cases h
      have hverdict := e.book.verdict_settleResult s true
      exact (hverdict.decides_iff (Bool.eq_false_iff.mpr hopen)).mpr (.inr (.inr ⟨rfl, hdeck⟩))

/-- **Victory goes by precedence and is final.** Whatever the rules are, evaluating a snapshot gives
the verdict: of all that could end the duel the first one in order of precedence does. Drawing for
the turn from an empty deck, where it is not refused, decides the duel. And with the library and
further cards and scripts, whatever operations, commands and activations are carried out, from a
decided duel on the result stays the same. -/
theorem verdicts_stand :
    (∀ (e : Engine) s drawDue, e.book.Verdict s drawDue (e.evaluateVictory s drawDue)) ∧
      (∀ (e : Engine) s t, s.count .deck = 0 → e.drawForTurn s = .ok t → t.isTerminal = true) ∧
      ∀ (scripts : Script → Prop) (e : Engine), e.Filled scripts → ∀ s m m',
        Relation.ReflTransGen e.Proceeds (.between s) m → Relation.ReflTransGen e.Proceeds m m' →
          m.state.isTerminal = true → m'.state.result = m.state.result :=
  ⟨fun e => e.book.verdict_settleResult, fun _ _ _ => isTerminal_of_drawForTurn,
    fun _ _ he _ _ _ => result_eq_of_proceeds he.stocked⟩

/-- The five parts of Exodia in hand, no deck, and no life left on either side. -/
def exodiaAtTheEnd : Snapshot :=
  { Sequencer.cardless with
    life := .both 0
    board :=
      { hand := (Library.cards.filter (·.id ∈ Passcode.exodiaPieces)).zipIdx.map fun p =>
          .new (Board.entryId p.2) p.1 .hand } }

/-- Exodia comes before everything else that could end the duel. With a part of it discarded and
the duel evaluated again, the player has still won. -/
theorem verdicts_stand_with_exodia :
    ∃ t u, (Library.engine {}).evaluateVictory exodiaAtTheEnd true = t ∧
      t.result = .decided .player (.special ⟨Passcode.exodia.number⟩ "Exodia the Forbidden One") ∧
      Relation.ReflTransGen (Library.engine {}).Proceeds (.between t) (.between u) ∧
      u.count .hand = 4 ∧ u.result = t.result := by
  let t := (Library.engine {}).evaluateVictory exodiaAtTheEnd true
  have hresult : t.result =
      .decided .player (.special ⟨Passcode.exodia.number⟩ "Exodia the Forbidden One") := by
    decide +kernel
  have hrun : ((Operation.discard [Board.entryId 0]).perform t).toOption.map
      (fun out => ((Library.engine {}).evaluateVictory out.state true).count .hand) = some 4 := by
    decide +kernel
  obtain ⟨out, hdiscard, hhand⟩ := Option.map_eq_some_iff.mp hrun
  have hproceeds : Relation.ReflTransGen (Library.engine {}).Proceeds (.between t)
      (.between ((Library.engine {}).evaluateVictory out.state true)) :=
    .tail (.single (.operation (eq_ok_of_toOption hdiscard)))
      (.does (.command (c := .evaluateVictory true) rfl))
  have hterminal : t.isTerminal = true := by
    rw [isTerminal, hresult]
    rfl
  exact ⟨t, _, rfl, hresult, hproceeds, hhand,
    verdicts_stand.2.2 _ _ (filled_library (fun _ => False) {}) t _ _ .refl hproceeds hterminal⟩

end Engine

end SoloDuel
