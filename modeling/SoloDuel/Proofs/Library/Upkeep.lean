import SoloDuel.Proofs.Engine.Victory
import SoloDuel.Proofs.Library.Installed
import SoloDuel.Proofs.Rule.Destruction
/-!
# Upkeep

Of the built-in cards only Toon Mermaid destroys itself, and only while no Toon World is face-up.
The mermaids are picked out once and destroyed one after another. No built-in rule puts anything in
the place of their destruction, and none of them is Toon World, so that once they are gone nothing
is left to do.

* `Library.unprotected`, `Library.destroy_eq` — what becomes of a card that is destroyed.
* `Library.selfDestructing_eq` — which cards destroy themselves.
* `Library.settle_settled` — settling once is enough.
-/

namespace SoloDuel

/-! ## Results -/

/-- Bringing a result up to date twice is no more than once. -/
theorem RuleBook.settleResult_settleResult (book : RuleBook) (s : Snapshot) (drawDue : Bool) :
    book.settleResult (book.settleResult s drawDue) drawDue = book.settleResult s drawDue := by
  cases hover : (book.settleResult s drawDue).isTerminal with
  | true => exact settleResult_of_isTerminal book hover drawDue
  | false =>
    -- What is still open was left alone.
    have hsame : book.settleResult s drawDue = s := by
      unfold settleResult at hover ⊢
      dsimp only at hover ⊢
      split at hover
      · rename_i hdecided
        rw [Snapshot.isTerminal, hdecided.1] at hover
        cases hover
      · rename_i hopen
        rw [if_neg hopen]
    rw [hsame, hsame]

namespace Library

variable {s : Snapshot} {card : CardInstance} {id : InstanceId}

/-! ## Destruction -/

/-- A citadel with spell counters is the only card that a built-in rule protects. -/
theorem applicable_actionReplacement (config : DuelConfig) (s : Snapshot) (card : CardInstance) :
    (engine config).book.applicable .actionReplacement s (.destroy card) =
      if card.cardId = Passcode.magicalCitadelOfEndymion ∧ 0 < card.counter .spell then
        [citadelProtection]
      else [] := by
  have hrules : (engine config).book.ofCategory .actionReplacement = [citadelProtection] :=
    ofCategory_engine config .actionReplacement
  have hsay : citadelProtection.canApply s (.destroy card) =
    decide (card.cardId = Passcode.magicalCitadelOfEndymion ∧ 0 < card.counter .spell) := rfl
  rw [RuleBook.applicable, hrules, List.filter_cons, List.filter_nil, hsay]
  simp only [decide_eq_true_iff]

theorem unprotected (config : DuelConfig)
    (h : ¬ (card.cardId = Passcode.magicalCitadelOfEndymion ∧ 0 < card.counter .spell)) :
    (engine config).book.Unprotected card := by
  intro s rule hrule
  rw [applicable_actionReplacement, if_neg h] at hrule
  cases hrule

/-- **What becomes of a destroyed card.** A citadel with a spell counter loses one; any other card
on the field goes to the graveyard. -/
theorem destroy_eq (config : DuelConfig) (hs : s.board.Sound) (hfind : s.find? id = some card)
    (hfield : card.isOnField = true) :
    (engine config).book.destroy s id =
      if card.cardId = Passcode.magicalCitadelOfEndymion ∧ 0 < card.counter .spell then do
        let out ← s.removeCounters id .spell 1
        return { out with message := s!"{card.name} removed a spell counter instead" }
      else .ok
        { state := s.moved card .graveyard .faceUp
          message := s!"{id} was destroyed"
          events := [.cardDestroyed card.cardId id] } := by
  by_cases hprotected : card.cardId = Passcode.magicalCitadelOfEndymion ∧ 0 < card.counter .spell
  · obtain ⟨rfl, -⟩ := Snapshot.mem_zone_of_find? hs hfind
    rw [if_pos hprotected, RuleBook.destroy, hfind]
    dsimp only
    rw [if_pos hfield, applicable_actionReplacement, if_pos hprotected]
    rfl
  · rw [if_neg hprotected]
    exact RuleBook.destroy_of_unprotected hs hfind hfield (unprotected config hprotected)

/-! ## Toon Mermaids -/

/-- The Toon Mermaids on the field, in storage order. -/
def mermaids (s : Snapshot) : List CardInstance :=
  s.board.onField.filter (·.cardId = Passcode.toonMermaid)

theorem fielded_mermaids (hs : s.board.Sound) : s.Fielded (mermaids s) :=
  .of_sublist hs List.filter_sublist

/-- No built-in rule protects a mermaid. -/
theorem unprotected_of_mem_mermaids (config : DuelConfig) (hc : card ∈ mermaids s) :
    (engine config).book.Unprotected card := by
  refine unprotected config fun hcitadel => ?_
  have hmermaid : card.cardId = Passcode.toonMermaid := of_decide_eq_true (List.mem_filter.mp hc).2
  rw [hmermaid] at hcitadel
  exact absurd hcitadel.1 (by decide)

/-- **Which cards destroy themselves**: the Toon Mermaids, while no Toon World is face-up. -/
theorem selfDestructing_eq (config : DuelConfig) (hs : s.board.Sound) :
    (engine config).book.selfDestructing s =
      if s.hasFaceUp Passcode.toonWorld then [] else (mermaids s).map (·.id) := by
  have hrules : (engine config).book.ofCategory .selfDestruction = [toonMermaidUpkeep] :=
    ofCategory_engine config .selfDestruction
  have hcard : ∀ c ∈ s.board.onField,
      ((engine config).book.applicable .selfDestruction s (.card c)).any
          (·.permits s (.card c)) =
        (decide (c.cardId = Passcode.toonMermaid) && !s.hasFaceUp Passcode.toonWorld) := by
    intro c hc
    have hfield := ((Snapshot.mem_onField_iff hs).mp hc).2
    rw [RuleBook.applicable, hrules, List.any_filter]
    simp [toonMermaidUpkeep, RuleContext.card?, hfield]
  rw [RuleBook.selfDestructing, List.filter_congr hcard]
  cases s.hasFaceUp Passcode.toonWorld <;> simp [mermaids]

theorem mem_map_mermaids (hs : s.board.Sound) {name : ZoneName} {c : CardInstance}
    (hc : c ∈ s.zone name) :
    c.id ∈ (mermaids s).map (·.id) ↔ name.isOnField = true ∧ c.cardId = Passcode.toonMermaid := by
  have hfind := Snapshot.find?_of_mem hs hc
  have hfield := hs.fielded name c hc
  have hmem : c ∈ mermaids s ↔ name.isOnField = true ∧ c.cardId = Passcode.toonMermaid := by
    simp [mermaids, Snapshot.mem_onField_iff hs, hfind, hfield]
  rw [← hmem, List.mem_map]
  constructor
  · rintro ⟨other, hother, hid⟩
    have hsame := (fielded_mermaids hs).found other hother
    rw [hid, hfind] at hsame
    cases hsame
    exact hother
  · exact fun h => ⟨c, h, rfl⟩

/-! ## Settling -/

/-- The snapshot after self-destruction: the mermaids are gone unless Toon World is face-up. -/
def upkept (s : Snapshot) : Snapshot :=
  if s.hasFaceUp Passcode.toonWorld then s else s.buried (mermaids s)

theorem sound_upkept (hs : s.board.Sound) : (upkept s).board.Sound := by
  unfold upkept
  split
  · exact hs
  · exact Snapshot.sound_buried hs (fielded_mermaids hs)

theorem upkept_eq (s : Snapshot) : upkept s = { s with board := (upkept s).board } := by
  unfold upkept
  split
  · rfl
  · exact Snapshot.buried_eq s (mermaids s)

/-- Where the cards are once the mermaids are gone. -/
theorem zone_upkept (hs : s.board.Sound) (hworld : s.hasFaceUp Passcode.toonWorld = false)
    (name : ZoneName) :
    (upkept s).zone name =
      if name = .graveyard then
        s.zone .graveyard ++ (mermaids s).map (·.movedTo .graveyard .faceUp)
      else if name.isOnField then (s.zone name).filter (·.cardId ≠ Passcode.toonMermaid)
      else s.zone name := by
  rw [upkept, hworld, if_neg Bool.false_ne_true, Snapshot.zone_buried hs (fielded_mermaids hs)]
  split
  · rfl
  · cases hname : name.isOnField with
    | true =>
      refine List.filter_congr fun c hc => ?_
      simp [mem_map_mermaids hs hc, hname]
    | false =>
      refine List.filter_eq_self.mpr fun c hc => ?_
      simp [mem_map_mermaids hs hc, hname]

/-- A snapshot with the same board after self-destruction has nothing left to destroy. -/
theorem selfDestructing_of_upkept (config : DuelConfig) {t : Snapshot} (hs : s.board.Sound)
    (ht : t.board = (upkept s).board) : (engine config).book.selfDestructing t = [] := by
  have hsound : t.board.Sound := ht ▸ sound_upkept hs
  rw [selfDestructing_eq config hsound]
  cases hworld : s.hasFaceUp Passcode.toonWorld with
  | true =>
    have hkept : t.hasFaceUp Passcode.toonWorld = s.hasFaceUp Passcode.toonWorld := by
      rw [upkept, hworld, if_pos rfl] at ht
      rw [Snapshot.hasFaceUp, ht, Snapshot.hasFaceUp]
    rw [hkept, hworld, if_pos rfl]
  | false =>
    have hnone : mermaids t = [] := by
      refine List.filter_eq_nil_iff.mpr fun c hc hmermaid => ?_
      obtain ⟨name, hname, hmem⟩ := Board.mem_onField.mp hc
      have hzone := zone_upkept hs hworld name
      rw [if_neg (by rintro rfl; cases hname), if_pos hname, Snapshot.zone, ← ht] at hzone
      rw [hzone] at hmem
      have hother := (List.mem_filter.mp hmem).2
      simp only [decide_eq_true_iff] at hmermaid hother
      exact hother hmermaid
    rw [hnone, List.map_nil, ite_self]

theorem applySelfDestruction_eq (config : DuelConfig) (hs : s.board.Sound) :
    ∃ events, (engine config).book.applySelfDestruction s =
      .ok { state := upkept s, events := events } := by
  rw [RuleBook.applySelfDestruction, selfDestructing_eq config hs, upkept]
  split
  · exact ⟨[], rfl⟩
  · exact ⟨_, RuleBook.foldlM_destroyNext hs (fielded_mermaids hs)
      (fun c hc => unprotected_of_mem_mermaids config hc) none []⟩

theorem settle_eq (config : DuelConfig) (hs : s.board.Sound) :
    (engine config).settle s = .ok ((engine config).book.settleResult (upkept s) false) := by
  obtain ⟨events, hdestroy⟩ := applySelfDestruction_eq config hs
  rw [Engine.settle, hdestroy]
  rfl

/-- **Settling once is enough.** On any snapshot that passes the check, settling succeeds and leaves
nothing to destroy, so that settling again changes nothing. Nothing but the board and the result
changes. With a face-up Toon World the board does not change either; without one the Toon Mermaids
on the field go to the graveyard, and every other card stays where and as it is. -/
theorem settle_settled (config : DuelConfig) (hcheck : s.check = .ok ()) :
    ∃ t, (engine config).settle s = .ok t ∧ t.check = .ok () ∧
      (engine config).book.selfDestructing t = [] ∧
      (engine config).settle t = .ok t ∧
      t = { s with board := t.board, result := t.result } ∧
      (s.hasFaceUp Passcode.toonWorld = true → t.board = s.board) ∧
      (s.hasFaceUp Passcode.toonWorld = false → ∀ name, t.zone name =
        if name = .graveyard then
          s.zone .graveyard ++ (mermaids s).map (·.movedTo .graveyard .faceUp)
        else if name.isOnField then (s.zone name).filter (·.cardId ≠ Passcode.toonMermaid)
        else s.zone name) := by
  have hs : s.board.Sound := Board.check_eq_ok_iff.mp hcheck
  have hresult := RuleBook.settleResult_eq (engine config).book (upkept s) false
  have hboard : ((engine config).book.settleResult (upkept s) false).board =
      (upkept s).board := by
    rw [hresult]
  refine ⟨_, settle_eq config hs, ?_, ?_, ?_, ?_, ?_, ?_⟩
  · exact Board.check_eq_ok_iff.mpr (hboard ▸ sound_upkept hs)
  · exact selfDestructing_of_upkept config hs hboard
  · rw [Engine.settle, RuleBook.applySelfDestruction_of_nil
      (selfDestructing_of_upkept config hs hboard)]
    exact congrArg Except.ok (RuleBook.settleResult_settleResult _ _ false)
  · rw [hresult, upkept_eq s]
  · intro hworld
    rw [hboard, upkept, if_pos hworld]
  · intro hworld name
    rw [Snapshot.zone, hboard]
    exact zone_upkept hs hworld name

/-- Two Toon Mermaids with another monster between them. -/
def strandedMermaids : Snapshot :=
  { Sequencer.cardless with
    board := { monsterZone :=
      [.new ⟨1⟩ Engine.toonMermaidCard .monsterZone, .new ⟨2⟩ Engine.harpieCard .monsterZone,
        .new ⟨3⟩ Engine.toonMermaidCard .monsterZone] } }

/-- Both mermaids go, the first one first. -/
theorem settle_settled_with_two_mermaids :
    strandedMermaids.check = .ok () ∧
      strandedMermaids.hasFaceUp Passcode.toonWorld = false ∧
      ∃ t, (engine {}).settle strandedMermaids = .ok t ∧ (engine {}).settle t = .ok t ∧
        (t.zone .monsterZone).map (·.id) = [⟨2⟩] ∧
        (t.zone .graveyard).map (·.id) = [⟨1⟩, ⟨3⟩] := by
  have hcheck : strandedMermaids.check = .ok () := rfl
  have hworld : strandedMermaids.hasFaceUp Passcode.toonWorld = false := by decide
  obtain ⟨t, hsettle, -, -, hagain, -, -, hzone⟩ := settle_settled {} hcheck
  refine ⟨hcheck, hworld, t, hsettle, hagain, ?_, ?_⟩
  · rw [hzone hworld]
    decide
  · rw [hzone hworld]
    decide

end Library

end SoloDuel
