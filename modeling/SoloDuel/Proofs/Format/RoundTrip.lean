import Mathlib.Data.List.Nodup
import SoloDuel.Format.Script
import SoloDuel.Proofs.Format.Lawful
import SoloDuel.Proofs.Sequencer.Protocol
/-!
# Saving and loading

Snapshots, the places of a sequencer and scripts are read back as they were written. The marks of a
snapshot are sets, which may be written in any order and come back without repetition.

* `CardFilter.read_write` — filters, however deeply nested.
* `Snapshot.same_iff` — what the comparison of snapshots compares.
* `Snapshot.decode_encode` — what a snapshot is read back as.
* `Script.decode_without` — scripts that leave out what they may leave out.
* `load_of_save` — snapshots, places and scripts together.
-/

namespace SoloDuel

/-! ## Selections -/

namespace CardFilter

mutual

/-- Filters are read back as they were written. -/
theorem read_write : ∀ f : CardFilter, read f.write = some f
  | any => by simp [write, read]
  | kind k => by simp [write, Value.tagged, read]
  | spell type => by simp [write, Value.tagged, read]
  | monster race maxLevel => by
    simp [write, Value.tagged, read, encodeMonster, decodeMonster, Value.isRecord]
  | except id => by simp [write, Value.tagged, read]
  | all filters => by simp [write, Value.tagged, read, readEach_writeEach filters]

/-- So are lists of filters. -/
theorem readEach_writeEach : ∀ filters : List CardFilter,
    readEach (writeEach filters) = some filters
  | [] => by simp [writeEach, readEach]
  | f :: rest => by simp [writeEach, readEach, read_write f, readEach_writeEach rest]

end

end CardFilter

instance : LawfulStored CardFilter := ⟨CardFilter.read_write⟩

instance : LawfulStored SelectionRequest where
  decode_encode r := by unfold instStoredSelectionRequest; simp

instance : LawfulStored SequencerStatus where
  decode_encode status := by unfold instStoredSequencerStatus; cases status <;> simp

/-! ## Snapshots -/

instance : LawfulStored Phase where
  decode_encode p := by cases p <;> rfl

instance : LawfulStored Side where
  decode_encode s := by cases s <;> rfl

instance {α : Type} [Stored α] [LawfulStored α] : LawfulStored (BySide α) where
  decode_encode m := by unfold instStoredBySide; simp

instance : LawfulStored DuelConfig where
  decode_encode c := by unfold instStoredDuelConfig; simp

instance : LawfulStored Board where
  decode_encode b := by unfold instStoredBoard; simp

instance : LawfulStored SpellSpeed where
  decode_encode s := by cases s <;> rfl

instance : LawfulStored ChainBlock where
  decode_encode b := by unfold instStoredChainBlock; simp

instance : LawfulStored VictoryReason where
  decode_encode reason := by unfold instStoredVictoryReason; cases reason <;> simp

instance : LawfulStored DuelResult where
  decode_encode result := by unfold instStoredDuelResult; cases result <;> simp

instance : LawfulStored RngState where
  decode_encode r := by unfold instStoredRngState; simp

section

variable {α : Type} [DecidableEq α] {xs ys : List α}

theorem mem_distinctElements {a : α} : a ∈ distinctElements xs ↔ a ∈ xs := by
  unfold distinctElements
  induction xs with
  | nil => rfl
  | cons b rest ih => rw [List.foldr_cons, List.mem_insert_iff, ih, List.mem_cons]

theorem nodup_distinctElements : (distinctElements xs).Nodup := by
  unfold distinctElements
  induction xs with
  | nil => exact .nil
  | cons b rest ih => exact List.Nodup.insert ih

namespace Snapshot

theorem sameElements_iff : sameElements xs ys = true ↔ ∀ a, a ∈ xs ↔ a ∈ ys := by
  simp only [sameElements, Bool.and_eq_true, List.all_eq_true, List.contains_iff_mem]
  exact ⟨fun h a => ⟨h.1 a, h.2 a⟩, fun h => ⟨fun a => (h a).mp, fun a => (h a).mpr⟩⟩

variable {s t : Snapshot}

/-- The same duel state: everything but the marks is equal, and the marks are the same sets. -/
theorem same_iff : s.same t = true ↔
    { s with usedCards := [], usedEffects := [] } =
        { t with usedCards := [], usedEffects := [] } ∧
      (∀ card, card ∈ s.usedCards ↔ card ∈ t.usedCards) ∧
      ∀ mark, mark ∈ s.usedEffects ↔ mark ∈ t.usedEffects := by
  rw [same, Bool.and_eq_true, Bool.and_eq_true, decide_eq_true_iff, sameElements_iff,
    sameElements_iff, and_assoc]

/-- What a snapshot is read back as: its marks have become sets. -/
theorem decode_encode (s : Snapshot) :
    decode (encode s) = some { s with
      usedCards := distinctElements s.usedCards
      usedEffects := distinctElements s.usedEffects } := by
  unfold instStoredSnapshot
  simp

/-- A snapshot is read back as the same duel state, in whichever order its marks were written. -/
theorem exists_decode_of_same (hsame : s.same t = true) :
    ∃ u, decode (encode t) = some u ∧ s.same u = true ∧ u.usedCards.Nodup ∧
      u.usedEffects.Nodup := by
  obtain ⟨hrest, hcards, heffects⟩ := same_iff.mp hsame
  refine ⟨_, decode_encode t, same_iff.mpr ⟨?_, fun card => ?_, fun mark => ?_⟩,
    nodup_distinctElements, nodup_distinctElements⟩
  · exact hrest
  · rw [hcards card, mem_distinctElements]
  · rw [heffects mark, mem_distinctElements]

end Snapshot

end

/-! ## Scripts -/

instance : LawfulStored ActivationTemplate where
  decode_encode t := by cases t <;> rfl

instance : LawfulStored OncePerTurn where
  decode_encode o := by cases o <;> rfl

instance : LawfulStored Condition where
  decode_encode c := by unfold instStoredCondition; cases c <;> simp

instance : LawfulStored Instruction where
  decode_encode i := by unfold instStoredInstruction; cases i <;> simp

instance : LawfulStored Script where
  decode_encode s := by unfold instStoredScript; simp

/-- A stored record with a field left out. -/
def Value.without (v : Value) (name : String) : Value :=
  match v with
  | .record fields => .record (fields.filter (·.1 ≠ name))
  | v => v

/-- A script that does not say how often it may be used, or does not say on what conditions, may be
used without limit, or without condition. -/
theorem Script.decode_without (x : Script) :
    decode ((encode x).without "once_per_turn") = some { x with once := .unlimited } ∧
      decode ((encode x).without "conditions") = some { x with conditions := [] } ∧
      decode (((encode x).without "once_per_turn").without "conditions") =
        some { x with once := .unlimited, conditions := [] } := by
  unfold instStoredScript
  refine ⟨?_, ?_, ?_⟩ <;> simp [Value.without]

/-! ## All together -/

/-- **What is saved can be loaded.** A snapshot comes back as the same duel state, in whichever
order its marks were written; the place of a sequencer and a script come back as they were, and a
script that leaves out its restriction or its conditions comes back with none. -/
theorem load_of_save {s written : Snapshot} (hsame : s.same written = true)
    (status : SequencerStatus) (x : Script) :
    (∃ t, decode (encode written) = some t ∧ s.same t = true ∧ t.usedCards.Nodup ∧
        t.usedEffects.Nodup) ∧
      decode (encode status) = some status ∧
      decode (encode x) = some x ∧
      decode ((encode x).without "once_per_turn") = some { x with once := .unlimited } ∧
      decode ((encode x).without "conditions") = some { x with conditions := [] } ∧
      decode (((encode x).without "once_per_turn").without "conditions") =
        some { x with once := .unlimited, conditions := [] } :=
  ⟨Snapshot.exists_decode_of_same hsame, LawfulStored.decode_encode status,
    LawfulStored.decode_encode x, x.decode_without⟩

/-- A duel in which two species have used their effects this turn. -/
def twoMarks : Snapshot := { Sequencer.cardless with usedCards := [⟨1⟩, ⟨2⟩] }

/-- A sequencer that waits for one card of two. -/
def oneOfTwo : SequencerStatus :=
  .awaiting 3 ⟨"discard", "Discard a card", [⟨4⟩, ⟨9⟩], 1, 1, false⟩

/-- A script with filters inside filters. -/
def nestedSearch : Script where
  card := ⟨7⟩
  template := .quickPlaySpell
  once := .copy
  conditions := [.onField, .zoneHas .graveyard (.all [.kind .spell, .all [.any, .except ⟨3⟩]])]
  instructions := [.addCounters (.generic 2) 1 (some 3), .search (.all [.monster none (some 4)])]

/-- The two marks may be written the other way around. -/
theorem load_of_save_reversed :
    twoMarks.same { twoMarks with usedCards := [⟨2⟩, ⟨1⟩] } = true ∧
      (∃ t, decode (encode { twoMarks with usedCards := [⟨2⟩, ⟨1⟩] }) = some t ∧
        twoMarks.same t = true ∧ t.usedCards.Nodup ∧ t.usedEffects.Nodup) ∧
      decode (encode oneOfTwo) = some oneOfTwo ∧
      decode (encode nestedSearch) = some nestedSearch ∧
      decode ((encode nestedSearch).without "once_per_turn") =
        some { nestedSearch with once := .unlimited } ∧
      decode ((encode nestedSearch).without "conditions") =
        some { nestedSearch with conditions := [] } ∧
      decode (((encode nestedSearch).without "once_per_turn").without "conditions") =
        some { nestedSearch with once := .unlimited, conditions := [] } := by
  have hsame : twoMarks.same { twoMarks with usedCards := [⟨2⟩, ⟨1⟩] } = true := by decide
  exact ⟨hsame, load_of_save hsame oneOfTwo nestedSearch⟩

end SoloDuel
