import SoloDuel.Proofs.Engine.Stays
/-!
# Placed this turn

The field state of a card notes whether the card was placed this turn. Cards come to the field by
four commands and by activations, and only some of these make the note; it goes with the field state
when the card leaves, and the start of a turn takes it away. What the note says in the end: the card
has lain in its zone, in the turn at hand, since it was normal summoned or set.

A special summon makes no note, though it places a monster as a normal summon does.

* `PlacedSince` — a copy has lain in a zone since a command put it there, all in one turn.
* `placedSince_concat_iff` — what one more deed makes of that.
* `Engine.placed_iff_placedSince` — what the note says.
* `Engine.not_placed_of_special_summon` — a monster placed this turn without the note.
-/

namespace SoloDuel

open Snapshot

/-- One of certain commands put the copy on the field, and since then the copy has lain in the zone
and the turn has had the number. -/
def PlacedSince (puts : Command → Option InstanceId) (id : InstanceId) (zone : ZoneName)
    (turn : UInt32) (history : List Entry) : Prop :=
  ∃ before c t after, history = before ++ ⟨.command c, t⟩ :: after ∧ puts c = some id ∧
    ∀ x ∈ (⟨.command c, t⟩ : Entry) :: after,
      (x.state.stateIn? id zone).isSome = true ∧ x.state.turn = turn

section PlacedSince

variable {puts : Command → Option InstanceId} {id : InstanceId} {zone : ZoneName} {turn : UInt32}
  {history : List Entry} {x : Entry}

theorem not_placedSince_nil : ¬ PlacedSince puts id zone turn [] := by
  rintro ⟨before, c, t, after, hsplit, -⟩
  exact List.cons_ne_nil _ _ (List.append_eq_nil_iff.mp hsplit.symm).2

/-- The placing is the last thing done, or came before it. -/
theorem placedSince_of_concat (h : PlacedSince puts id zone turn (history ++ [x])) :
    ((x.state.stateIn? id zone).isSome = true ∧ x.state.turn = turn) ∧
      ((∃ c, x.deed = .command c ∧ puts c = some id) ∨ PlacedSince puts id zone turn history) := by
  obtain ⟨before, c, t, after, hsplit, hputs, hsince⟩ := h
  rcases List.eq_nil_or_concat after with rfl | ⟨after, y, rfl⟩
  · obtain ⟨-, hx⟩ := List.append_inj' hsplit rfl
    obtain rfl := List.singleton_inj.mp hx
    exact ⟨hsince _ List.mem_cons_self, .inl ⟨c, rfl, hputs⟩⟩
  · rw [List.concat_eq_append, ← List.cons_append, ← List.append_assoc] at hsplit
    obtain ⟨rfl, hx⟩ := List.append_inj' hsplit rfl
    obtain rfl := List.singleton_inj.mp hx
    refine ⟨hsince x (by simp), .inr ⟨before, c, t, after, rfl, hputs, fun z hz => hsince z ?_⟩⟩
    rw [List.concat_eq_append, ← List.cons_append]
    exact List.mem_append_left _ hz

/-- **One more deed** after which the copy lies in the zone leaves it placed, or places it. -/
theorem placedSince_concat_iff (puts : Command → Option InstanceId) (history : List Entry)
    (x : Entry) (hx : (x.state.stateIn? id zone).isSome = true ∧ x.state.turn = turn) :
    PlacedSince puts id zone turn (history ++ [x]) ↔
      (∃ c, x.deed = .command c ∧ puts c = some id) ∨ PlacedSince puts id zone turn history := by
  constructor
  · exact fun h => (placedSince_of_concat h).2
  · rintro (⟨c, hdeed, hputs⟩ | ⟨before, c, t, after, rfl, hputs, hsince⟩)
    · obtain ⟨deed, t⟩ := x
      obtain rfl : deed = .command c := hdeed
      exact ⟨history, c, t, [], rfl, hputs, by simpa using hx⟩
    · refine ⟨before, c, t, after ++ [x], by simp, hputs, fun y hy => ?_⟩
      rw [← List.cons_append] at hy
      rcases List.mem_append.mp hy with hy | hy
      · exact hsince y hy
      · obtain rfl := List.mem_singleton.mp hy
        exact hx

end PlacedSince

namespace Engine

variable {e : Engine} {s : Snapshot} {m : Moment} {history : List Entry} {deck : List CardId}
  {id : InstanceId} {zone : ZoneName}

/-- What was placed and has stayed lies there now. -/
theorem Run.of_placedSince {puts : Command → Option InstanceId} {turn : UInt32}
    (h : e.Run s history m) (hplaced : PlacedSince puts id zone turn history) :
    (m.state.stateIn? id zone).isSome = true ∧ m.state.turn = turn := by
  cases h with
  | start => exact absurd hplaced not_placedSince_nil
  | does => exact (placedSince_of_concat hplaced).1

/-- A duel opens with no copy on the field. -/
theorem stateIn?_of_newGame (h : e.newGame deck = .ok s) : s.stateIn? id zone = none := by
  refine Option.eq_none_iff_forall_not_mem.mpr fun f hf => ?_
  obtain ⟨card, hfind, rfl, hfield⟩ := stateIn?_eq_some_iff.mp hf
  have hs := (opening_spec h).1
  obtain ⟨-, hcard⟩ := mem_zone_of_find? hs hfind
  have hon : card.location.isOnField = true := by
    rw [← hs.fielded card.location card hcard, CardInstance.isOnField, hfield]
    rfl
  rw [opening_zone_eq_nil h hon] at hcard
  cases hcard

/-- The note on a copy in a zone, along a duel. -/
theorem Run.placed_iff (he : e.LetsStay id zone) (hopening : e.newGame deck = .ok s)
    (h : e.Run s history m) :
    m.LetsStay id zone ∧ m.state.board.Sound ∧ ∀ f, m.state.stateIn? id zone = some f →
      (f.placedThisTurn = true ↔
        PlacedSince Command.places? id zone m.state.turn history) := by
  induction h with
  | start =>
    refine ⟨trivial, (opening_spec hopening).1, fun f hf => ?_⟩
    rw [Moment.state, stateIn?_of_newGame hopening] at hf
    cases hf
  | @does history m m' d hrun hdoes ih =>
    obtain ⟨hstays, hs, hplaced⟩ := ih
    obtain ⟨hstays', hs', hfate⟩ := hdoes.fate he hstays hs
    refine ⟨hstays', hs', fun g hg => ?_⟩
    have hlies : (m'.state.stateIn? id zone).isSome = true := by rw [hg, Option.isSome_some]
    have hconcat : PlacedSince Command.places? id zone m'.state.turn (history ++ [⟨d, m'⟩]) ↔
        (∃ c, d = .command c ∧ c.places? = some id) ∨
          PlacedSince Command.places? id zone m'.state.turn history :=
      placedSince_concat_iff Command.places? history ⟨d, m'⟩ ⟨hlies, rfl⟩
    rw [hconcat]
    cases hfate with
    | passed hnot hpasses =>
      have hno : ¬ ∃ c, d = .command c ∧ c.places? = some id := fun ⟨c, hc, hputs⟩ =>
        hnot c hc hputs
      obtain ⟨-, hturn, hstate⟩ := hpasses hs
      rw [or_iff_right hno, hturn]
      rcases hstate g hg with ⟨f, hf, hcarries⟩ | ⟨hnone, hfresh⟩
      · rw [hcarries.placed]
        exact hplaced f hf
      · -- the copy has just arrived
        rw [hfresh]
        refine iff_of_false Bool.false_ne_true fun hsince => ?_
        have hlies := (hrun.of_placedSince hsince).1
        rw [hnone] at hlies
        cases hlies
    | @placed c hd hputs _ _ hnoted =>
      exact iff_of_true (hnoted g hg) (.inl ⟨c, hd, hputs⟩)
    | begun hnot hturn hfresh =>
      rw [hfresh g hg]
      refine iff_of_false Bool.false_ne_true ?_
      rintro (⟨c, hd, hputs⟩ | hsince)
      · exact hnot c hd hputs
      · exact hturn (hrun.of_placedSince hsince).2.symm

/-- **What it means to be noted as placed this turn.** Whatever commands and activations have been
carried out since the opening, with effects, triggers and rules that leave stays on the field alone:
on a card on the field it is noted that it was placed this turn exactly if it has lain in its zone,
in the turn at hand, ever since one of three commands put it there: a normal summon, the setting of
a monster, or the setting of a spell or trap. -/
theorem placed_iff_placedSince (he : ∀ id zone, e.LetsStay id zone)
    (hopening : e.newGame deck = .ok s) (h : e.Run s history m) {card : CardInstance}
    {f : FieldState} (hfind : m.state.find? id = some card) (hfield : card.field = some f) :
    f.placedThisTurn = true ↔
      PlacedSince Command.places? id card.location m.state.turn history :=
  (h.placed_iff (he id card.location) hopening).2.2 f
    (stateIn?_eq_some_iff.mpr ⟨card, hfind, rfl, hfield⟩)

/-- Of a monster set in the first turn and a field spell set in the second, the note is on the field
spell. -/
theorem placed_iff_in_second_turn :
    ∃ s history t monster spell f g, (Library.engine unshuffledThree).newGame oneOfEach = .ok s ∧
      (Library.engine unshuffledThree).Run s history (.between t) ∧
      t.find? (Board.entryId 1) = some monster ∧ monster.field = some f ∧
      f.placedThisTurn = false ∧
      ¬ PlacedSince Command.places? (Board.entryId 1) monster.location t.turn history ∧
      t.find? (Board.entryId 3) = some spell ∧ spell.field = some g ∧ g.placedThisTurn = true ∧
      PlacedSince Command.places? (Board.entryId 3) spell.location t.turn history := by
  have hrun : (((Library.engine unshuffledThree).newGame oneOfEach).toOption.bind fun s =>
      ((Library.engine unshuffledThree).performEach [.advanceTo .main,
        .setMonster (Board.entryId 1), .advanceTo .draw, .advanceTo .main,
        .setSpellTrap (Board.entryId 3)] s).toOption.bind fun t =>
          (t.find? (Board.entryId 1)).bind fun monster =>
            (t.find? (Board.entryId 3)).bind fun spell =>
              monster.field.bind fun f => spell.field.map fun g =>
                (f.placedThisTurn, g.placedThisTurn)) = some (false, true) := by
    decide +kernel
  obtain ⟨s, hopening, hrun⟩ := Option.bind_eq_some_iff.mp hrun
  obtain ⟨t, hcommands, hrun⟩ := Option.bind_eq_some_iff.mp hrun
  obtain ⟨monster, hmonster, hrun⟩ := Option.bind_eq_some_iff.mp hrun
  obtain ⟨spell, hspell, hrun⟩ := Option.bind_eq_some_iff.mp hrun
  obtain ⟨f, hf, hrun⟩ := Option.bind_eq_some_iff.mp hrun
  obtain ⟨g, hg, hnotes⟩ := Option.map_eq_some_iff.mp hrun
  obtain ⟨hfirst, hsecond⟩ := Prod.mk.inj hnotes
  obtain ⟨history, hhistory⟩ := Run.start.commands (eq_ok_of_toOption hcommands)
  have he : ∀ id zone, (Library.engine unshuffledThree).LetsStay id zone :=
    (filled_library (fun _ => False) unshuffledThree).stocked.letsStay
  have hopened := eq_ok_of_toOption hopening
  refine ⟨s, _, t, monster, spell, f, g, hopened, hhistory, hmonster, hf, hfirst, fun hplaced => ?_,
    hspell, hg, hsecond, (placed_iff_placedSince he hopened hhistory hspell hg).mp hsecond⟩
  rw [(placed_iff_placedSince he hopened hhistory hmonster hf).mpr hplaced] at hfirst
  cases hfirst

/-- **A special summon makes no note.** A monster has lain on the field since it was special
summoned this turn, and nothing notes that it was placed. -/
theorem not_placed_of_special_summon :
    ∃ s history t card f, (Library.engine unshuffledThree).newGame oneOfEach = .ok s ∧
      (Library.engine unshuffledThree).Run s history (.between t) ∧
      t.find? (Board.entryId 1) = some card ∧ card.field = some f ∧
      PlacedSince Command.brings? (Board.entryId 1) card.location t.turn history ∧
      f.placedThisTurn = false := by
  have hrun : (((Library.engine unshuffledThree).newGame oneOfEach).toOption.bind fun s =>
      ((Library.engine unshuffledThree).performEach [.advanceTo .main] s).toOption.bind fun t =>
        ((Command.specialSummon (Board.entryId 1)).perform (Library.engine unshuffledThree)
          t).toOption.bind fun out => (out.state.find? (Board.entryId 1)).bind fun card =>
            card.field.map (·.placedThisTurn)) = some false := by
    decide +kernel
  obtain ⟨s, hopening, hrun⟩ := Option.bind_eq_some_iff.mp hrun
  obtain ⟨t, hcommands, hrun⟩ := Option.bind_eq_some_iff.mp hrun
  obtain ⟨out, hsummon, hrun⟩ := Option.bind_eq_some_iff.mp hrun
  obtain ⟨card, hcard, hrun⟩ := Option.bind_eq_some_iff.mp hrun
  obtain ⟨f, hf, hnoted⟩ := Option.map_eq_some_iff.mp hrun
  obtain ⟨history, hhistory⟩ := Run.start.commands (eq_ok_of_toOption hcommands)
  have hlies : (out.state.stateIn? (Board.entryId 1) card.location).isSome = true := by
    rw [stateIn?_eq_some_iff.mpr ⟨card, hcard, rfl, hf⟩]
    rfl
  have hplaced := (placedSince_concat_iff Command.brings? ([] ++ history)
    ⟨.command (.specialSummon (Board.entryId 1)), .between out.state⟩ ⟨hlies, rfl⟩).mpr
      (.inl ⟨_, rfl, rfl⟩)
  exact ⟨s, _, out.state, card, f, eq_ok_of_toOption hopening,
    hhistory.does (.command (eq_ok_of_toOption hsummon)), hcard, hf, hplaced, hnoted⟩

end Engine

end SoloDuel
