import SoloDuel.Proofs.Engine.History
import SoloDuel.Proofs.Engine.Turns
/-!
# The allowance of normal summons

A normal summon or set looks at the allowance first, asks the rules, moves the card and lowers the
allowance last; the allowance is renewed where a turn begins. Whatever is played in between, what
was summoned normally in a turn and what is left of the allowance make up the number that the
configuration gives for a turn.

* `Snapshot.SameAllowance` — the turn, the configuration and the allowance are the same.
* `Snapshot.Spending` — what a deed does to the allowance; `Engine.spending_of_does` says so.
* `normalSummonsIn` — the normal summons and sets of a history since the turn at hand began.
* `Engine.normal_summons_accounted` — these and the allowance make up the number for a turn, in an
  engine of ordinary make; `Engine.generous_allows_three` — a rule, a trigger and an effect that are
  not made so.
-/

namespace SoloDuel

open Snapshot

/-! ## What is done to the allowance -/

namespace Snapshot

variable {s t u : Snapshot}

/-- The turn, the configuration and the normal summons still allowed are the same. -/
structure SameAllowance (s t : Snapshot) : Prop where
  turn : t.turn = s.turn
  config : t.config = s.config
  left : t.normalSummonsLeft = s.normalSummonsLeft

theorem SameAllowance.refl (s : Snapshot) : SameAllowance s s := ⟨rfl, rfl, rfl⟩

theorem SameAllowance.symm (h : SameAllowance s t) : SameAllowance t s :=
  ⟨h.turn.symm, h.config.symm, h.left.symm⟩

theorem SameAllowance.trans (h₁ : SameAllowance s t) (h₂ : SameAllowance t u) : SameAllowance s u :=
  ⟨h₂.turn.trans h₁.turn, h₂.config.trans h₁.config, h₂.left.trans h₁.left⟩

/-- Handling cards and life leaves the allowance alone. -/
theorem Handles.sameAllowance (h : Handles s t) : SameAllowance s t := by
  rw [h.eq]
  exact ⟨rfl, rfl, rfl⟩

theorem clears_sameAllowance : Clears SameAllowance where
  trans := .trans
  spares := fun h => h.handles.sameAllowance
  decided := fun _ _ _ _ => ⟨rfl, rfl, rfl⟩

/-- What is done to the allowance, by a normal summon or by anything else. -/
inductive Spending (s t : Snapshot) : (normal : Bool) → Prop
  /-- A turn begins, and the allowance is what it is for a turn. -/
  | renewed : t.config = s.config → t.turn ≠ s.turn →
      t.normalSummonsLeft = s.config.normalSummonsPerTurn → Spending s t false
  /-- One of those still allowed is used up. -/
  | spent : t.config = s.config → t.turn = s.turn → s.normalSummonsLeft ≠ 0 →
      t.normalSummonsLeft = s.normalSummonsLeft - 1 → Spending s t true
  | kept : SameAllowance s t → Spending s t false

theorem Spending.config {normal : Bool} (h : Spending s t normal) : t.config = s.config := by
  cases h with
  | renewed hconfig => exact hconfig
  | spent hconfig => exact hconfig
  | kept hsame => exact hsame.config

theorem Advanced.spending (h : Advanced s t) : Spending s t false := by
  cases h with
  | within => exact .kept ⟨rfl, rfl, rfl⟩
  | begun => exact .renewed rfl s.turn_beginTurn_ne rfl

/-- One less of what is left. -/
theorem toNat_sub_one {left : UInt32} (h : left ≠ 0) : (left - 1).toNat + 1 = left.toNat := by
  have hpos : left.toNat ≠ 0 := fun hzero => h (UInt32.toNat_inj.mp hzero)
  have hone : (1 : UInt32) ≤ left := UInt32.le_iff_toNat_le.mpr (Nat.one_le_iff_ne_zero.mpr hpos)
  rw [UInt32.toNat_sub_of_le _ _ hone]
  exact Nat.sub_add_cancel (Nat.one_le_iff_ne_zero.mpr hpos)

end Snapshot

/-- Whether a deed is a normal summon or set. -/
def Deed.summonsNormally : Deed → Bool
  | command c => c.summonsNormally
  | _ => false

namespace Engine

variable {e : Engine} {s : Snapshot} {m m' : Moment} {d : Deed} {history : List Entry}

/-- **What a command does to the allowance**, given that what rules put in the place of a
destruction leaves it alone. -/
theorem spending_of_command (hbook : e.book.Replaces SameAllowance) {c : Command} {out : Outcome}
    (h : c.perform e s = .ok out) : Spending s out.state c.summonsNormally := by
  cases c with
  | advancePhase => exact (advanced_of_advances rfl h).spending
  | advanceTo => exact (advanced_of_advances rfl h).spending
  | drawForTurn | settle | evaluateVictory | destroy | applySelfDestruction =>
    exact .kept (of_clearing clears_sameAllowance hbook rfl h)
  | normalSummon | setMonster =>
    obtain ⟨id, placement, set, hleft, hset, hout⟩ := exists_of_summonsNormally rfl h
    have hsame := (handles_of_setCard hset).sameAllowance
    rw [hout]
    refine .spent hsame.config hsame.turn hleft ?_
    rw [← hsame.left] at hleft ⊢
    exact if_neg hleft
  | specialSummon =>
    obtain ⟨card, moved, -, -, hmove, hout⟩ := exists_of_specialSummon h
    rw [hout]
    exact .kept (handles_of_moveToField hmove).sameAllowance
  | setSpellTrap =>
    obtain ⟨card, -, -, hset⟩ := e.exists_of_setSpellTrap h
    exact .kept (handles_of_setCard hset).sameAllowance

theorem Abides.lawful_sameAllowance (he : e.Abides SameAllowance) {source : InstanceId}
    {category : EffectCategory} {q : Sequencer}
    (h : e.activate s source category = .ok (.ready q)) : q.Lawful SameAllowance s := by
  refine he.lawful .trans Handles.sameAllowance (fun s source effect once => ?_) h
  cases once <;> exact ⟨rfl, rfl, rfl⟩

/-- **What a deed does to the allowance.** -/
theorem spending_of_does (he : e.Abides SameAllowance) (hm : m.Lawful SameAllowance)
    (h : e.Does m d m') :
    m'.Lawful SameAllowance ∧ Spending m.state m'.state d.summonsNormally := by
  obtain ⟨hlawful, hupshot⟩ :=
    h.upshot .refl .trans (fun _ _ _ _ hready => he.lawful_sameAllowance hready) hm
  refine ⟨hlawful, ?_⟩
  cases hupshot with
  | command hd hperform hstate =>
    rw [hd, hstate]
    exact spending_of_command he.rules hperform
  | cancelled hd _ _ hback =>
    rw [hd]
    exact .kept hback.symm
  | related hd hrelated =>
    have hnormal : d.summonsNormally = false := by
      cases d with
      | command c => exact absurd rfl (hd c)
      | _ => rfl
    rw [hnormal]
    exact .kept hrelated

end Engine

/-! ## The count -/

/-- The normal summons and sets of a history since the turn with a number began: those at its end,
as far back as that number goes. -/
def normalSummonsIn (turn : UInt32) (history : List Entry) : Nat :=
  (history.reverse.takeWhile fun x => x.state.turn = turn).countP (·.deed.summonsNormally)

theorem normalSummonsIn_concat (turn : UInt32) (history : List Entry) (x : Entry) :
    normalSummonsIn turn (history ++ [x]) =
      if x.state.turn = turn then
        normalSummonsIn turn history + if x.deed.summonsNormally then 1 else 0
      else 0 := by
  unfold normalSummonsIn
  rw [List.reverse_append, List.reverse_singleton, List.singleton_append]
  split
  · rename_i hturn
    rw [List.takeWhile_cons_of_pos (by simpa using hturn), List.countP_cons]
  · rename_i hturn
    rw [List.takeWhile_cons_of_neg (by simpa using hturn), List.countP_nil]

namespace Engine

variable {e : Engine} {s : Snapshot} {m m' : Moment} {d : Deed} {history : List Entry}

/-- Nothing has been done under another number than that of the turn at hand. -/
theorem Run.normalSummonsIn_of_ne (h : e.Run s history m) {turn : UInt32}
    (hturn : m.state.turn ≠ turn) : normalSummonsIn turn history = 0 := by
  cases h with
  | start => rfl
  | does _ _ =>
    rw [normalSummonsIn_concat]
    exact if_neg hturn

/-- **One deed keeps the count.** -/
theorem Run.accounted_concat (h : e.Run s history m)
    (hspending : Spending m.state m'.state d.summonsNormally)
    (hcount : normalSummonsIn m.state.turn history + m.state.normalSummonsLeft.toNat =
      m.state.config.normalSummonsPerTurn.toNat) :
    normalSummonsIn m'.state.turn (history ++ [⟨d, m'⟩]) + m'.state.normalSummonsLeft.toNat =
      m'.state.config.normalSummonsPerTurn.toNat := by
  have hconcat : normalSummonsIn m'.state.turn (history ++ [⟨d, m'⟩]) =
      normalSummonsIn m'.state.turn history + if d.summonsNormally then 1 else 0 := by
    rw [normalSummonsIn_concat]
    exact if_pos rfl
  rw [hconcat, hspending.config]
  generalize d.summonsNormally = normal at hspending
  cases hspending with
  | renewed _ hturn hleft =>
    rw [h.normalSummonsIn_of_ne hturn.symm, hleft]
    exact Nat.zero_add _
  | spent _ hturn hnonzero hleft =>
    have hless := toNat_sub_one hnonzero
    rw [hturn, hleft, if_pos rfl]
    omega
  | kept hsame =>
    rw [hsame.turn, hsame.left]
    exact hcount

/-- The count holds throughout a run from a snapshot at which the whole allowance is left. -/
theorem Run.accounted (he : e.Abides SameAllowance)
    (hs : s.normalSummonsLeft = s.config.normalSummonsPerTurn) (h : e.Run s history m) :
    m.Lawful SameAllowance ∧ m.state.config = s.config ∧
      normalSummonsIn m.state.turn history + m.state.normalSummonsLeft.toNat =
        m.state.config.normalSummonsPerTurn.toNat := by
  induction h with
  | start => exact ⟨trivial, rfl, by rw [Moment.state, hs]; exact Nat.zero_add _⟩
  | does hrun hdoes ih =>
    obtain ⟨hlawful, hconfig, hcount⟩ := ih
    obtain ⟨hlawful', hspending⟩ := spending_of_does he hlawful hdoes
    exact ⟨hlawful', hspending.config.trans hconfig, hrun.accounted_concat hspending hcount⟩

/-- **Normal summons are accounted for.** In an engine of ordinary make, whatever is played: the
normal summons and sets since the turn at hand began and those still allowed make up the number for
a turn, so that there are never more than that. A normal summon or set finds at least one still
allowed and leaves one less; nothing else that is done within the turn changes how many are. -/
theorem normal_summons_accounted (he : e.Ordinary) {deck : List CardId}
    (hopening : e.newGame deck = .ok s) (h : e.Run s history m) :
    normalSummonsIn m.state.turn history + m.state.normalSummonsLeft.toNat =
        e.config.normalSummonsPerTurn.toNat ∧
      normalSummonsIn m.state.turn history ≤ e.config.normalSummonsPerTurn.toNat ∧
      ∀ d m', e.Does m d m' →
        (d.summonsNormally = true → m'.state.turn = m.state.turn ∧
          0 < m.state.normalSummonsLeft.toNat ∧
          m'.state.normalSummonsLeft.toNat + 1 = m.state.normalSummonsLeft.toNat) ∧
        (d.summonsNormally = false → m'.state.turn = m.state.turn →
          m'.state.normalSummonsLeft = m.state.normalSummonsLeft) := by
  obtain ⟨⟨hconfig₀, hleft₀⟩, -⟩ := exists_of_opening hopening
  have habides : e.Abides SameAllowance := he.abides Handles.sameAllowance
  obtain ⟨hlawful, hconfig, hcount⟩ := h.accounted habides (by rw [hleft₀, hconfig₀])
  rw [hconfig, hconfig₀] at hcount
  refine ⟨hcount, by omega, fun d m' hdoes => ?_⟩
  obtain ⟨-, hspending⟩ := spending_of_does habides hlawful hdoes
  generalize d.summonsNormally = normal at hspending
  cases hspending with
  | renewed _ hturn => exact ⟨fun hn => (by cases hn), fun _ hsame => absurd hsame hturn⟩
  | spent _ hturn hnonzero hleft =>
    have hless := toNat_sub_one hnonzero
    refine ⟨fun _ => ⟨hturn, by omega, ?_⟩, fun hn => (by cases hn)⟩
    rw [hleft]
    exact hless
  | kept hsame => exact ⟨fun hn => (by cases hn), fun _ _ => hsame.left⟩

/-- Two normal summons a turn, and a hand of three in deck order. -/
def twoSummons : DuelConfig :=
  { openingHand := 3, shuffleOnStart := false, normalSummonsPerTurn := 2 }

def harpieDeck : List CardId := List.replicate 4 Passcode.harpieLady

/-- With one summon in the first turn, a summon and a set use up the allowance of the second. -/
theorem normal_summons_accounted_in_second_turn :
    (Library.engine twoSummons).Ordinary ∧
      ∃ s history t, (Library.engine twoSummons).newGame harpieDeck = .ok s ∧
        (Library.engine twoSummons).Run s history (.between t) ∧ t.turn = 2 ∧
        t.count .monsterZone = 3 ∧ normalSummonsIn t.turn history = 2 := by
  have hrun : (((Library.engine twoSummons).newGame harpieDeck).toOption.bind fun s =>
      ((Library.engine twoSummons).performEach [.advanceTo .main, .normalSummon (Board.entryId 3),
        .advanceTo .draw, .advanceTo .main, .normalSummon (Board.entryId 2),
        .setMonster (Board.entryId 1)] s).toOption.map fun t =>
          (t.turn, t.count .monsterZone, t.normalSummonsLeft)) = some (2, 3, 0) := by
    decide +kernel
  obtain ⟨s, hopening, hrun⟩ := Option.bind_eq_some_iff.mp hrun
  obtain ⟨t, hcommands, heq⟩ := Option.map_eq_some_iff.mp hrun
  simp only [Prod.mk.injEq] at heq
  obtain ⟨hturn, hmonsters, hleft⟩ := heq
  obtain ⟨history, hhistory⟩ := Run.start.commands (eq_ok_of_toOption hcommands)
  rw [List.nil_append] at hhistory
  have hordinary : (Library.engine twoSummons).Ordinary :=
    (filled_library (fun _ => False) twoSummons).stocked.ordinary
  have hcount := (normal_summons_accounted hordinary (eq_ok_of_toOption hopening) hhistory).1
  refine ⟨hordinary, s, history, t, eq_ok_of_toOption hopening, hhistory, hturn, hmonsters, ?_⟩
  rw [Moment.state, hleft] at hcount
  exact hcount

/-! ## Rules, triggers and effects that renew the allowance -/

/-- Performs commands and keeps the history of it. -/
def chronicle (e : Engine) : List Command → Snapshot → Option (List Entry × Snapshot)
  | [], s => some ([], s)
  | c :: rest, s => do
    let out ← (c.perform e s).toOption
    let (history, t) ← e.chronicle rest out.state
    return (⟨.command c, .between out.state⟩ :: history, t)

theorem Run.chronicle {commands : List Command} {more : List Entry} {t u : Snapshot}
    (h : e.Run s history (.between t)) (hmore : e.chronicle commands t = some (more, u)) :
    e.Run s (history ++ more) (.between u) := by
  induction commands generalizing history t more with
  | nil =>
    cases hmore
    rw [List.append_nil]
    exact h
  | cons c rest ih =>
    obtain ⟨out, hperform, hmore⟩ := Option.bind_eq_some_iff.mp hmore
    obtain ⟨⟨later, v⟩, hlater, heq⟩ := Option.bind_eq_some_iff.mp hmore
    cases heq
    rw [List.append_cons]
    exact ih (h.does (.command (eq_ok_of_toOption hperform))) hlater

/-- The snapshot with the whole allowance of a turn. -/
def renewed (s : Snapshot) : Snapshot :=
  { s with normalSummonsLeft := s.config.normalSummonsPerTurn }

/-- An engine with a rule that renews the allowance. -/
def generous : Engine := meddled twoSummons renewed

/-- Two normal summons are allowed in a turn, and three are made. -/
theorem exists_three_summons_of_meddled :
    ∃ s history t, generous.newGame harpieDeck = .ok s ∧ generous.Run s history (.between t) ∧
      generous.config.normalSummonsPerTurn = 2 ∧ normalSummonsIn t.turn history = 3 := by
  have hrun : ((generous.newGame harpieDeck).toOption.bind fun s =>
      (generous.chronicle [.advanceTo .main, .normalSummon (Board.entryId 3), .settle,
        .normalSummon (Board.entryId 2), .normalSummon (Board.entryId 1)] s).map fun r =>
          normalSummonsIn r.2.turn r.1) = some 3 := by
    decide +kernel
  obtain ⟨s, hopening, hrun⟩ := Option.bind_eq_some_iff.mp hrun
  obtain ⟨⟨history, t⟩, hhistory, hcount⟩ := Option.map_eq_some_iff.mp hrun
  exact ⟨s, history, t, eq_ok_of_toOption hopening, Run.start.chronicle hhistory, rfl, hcount⟩

/-- In some duel with the deck, the normal summons made in a turn and those still allowed are more
than a turn has. -/
def Overallows (e : Engine) (deck : List CardId) : Prop :=
  ∃ s history t, e.newGame deck = .ok s ∧ e.Run s history (.between t) ∧
    e.config.normalSummonsPerTurn.toNat <
      normalSummonsIn t.turn history + t.normalSummonsLeft.toNat

/-- Whether an activation in the first turn leaves more normal summons than a turn has. -/
def overallowsAfter (e : Engine) (deck : List CardId) (source : InstanceId) : Bool :=
  (e.readyAfter deck [.advanceTo .main] source).any fun q =>
    (q.call 20 .start).toOption.join.any fun r =>
      e.config.normalSummonsPerTurn < r.1.state.normalSummonsLeft

theorem overallows_of_after {deck : List CardId} (source : InstanceId)
    (h : e.overallowsAfter deck source = true) : e.Overallows deck := by
  obtain ⟨q, hready, h⟩ := (Option.any_eq_true _ _).mp h
  obtain ⟨⟨q', a⟩, hcall, hleft⟩ := (Option.any_eq_true _ _).mp h
  obtain ⟨s, history, hopening, hhistory⟩ := exists_run_of_readyAfter hready
  obtain ⟨more, hmore⟩ := hhistory.call (eq_ok_of_toOption (Option.join_eq_some_iff.mp hcall))
  have hless : e.config.normalSummonsPerTurn.toNat < q'.state.normalSummonsLeft.toNat :=
    UInt32.lt_iff_toNat_lt.mp (of_decide_eq_true hleft)
  exact ⟨s, _, q'.state, hopening, hmore.does .leave, Nat.lt_add_left _ hless⟩

/-- The snapshot with one normal summon more than a turn has. -/
def indulged (s : Snapshot) : Snapshot :=
  { s with normalSummonsLeft := s.config.normalSummonsPerTurn + 1 }

/-- **A rule, a trigger or an effect can renew the allowance.** Two normal summons are allowed in a
turn, and with a rule that renews the allowance three are made. With a trigger that answers a spell,
or with the effect of one, more can be made than a turn has. -/
theorem generous_allows_three :
    (∃ s history t, generous.newGame harpieDeck = .ok s ∧ generous.Run s history (.between t) ∧
      generous.config.normalSummonsPerTurn = 2 ∧ normalSummonsIn t.turn history = 3) ∧
      (haunted unshuffled indulged).Overallows fourPots ∧
      (cursed unshuffled indulged).Overallows fourPots := by
  refine ⟨exists_three_summons_of_meddled, ?_, ?_⟩
  · exact overallows_of_after (Board.entryId 3) (by decide +kernel)
  · exact overallows_of_after (Board.entryId 3) (by decide +kernel)

end Engine

end SoloDuel
