import SoloDuel.Proofs.Engine.Commands
import SoloDuel.Proofs.Sequencer.Protocol
import SoloDuel.Proofs.Snapshot.Arrival
/-!
# Summons

When a monster may be summoned or set, and what a summon changes. The checks of a summon are spread
over the command, the rules and the move; together they ask for exactly what `Engine.MaySummon` and
`Engine.MaySpecialSummon` list, and for room in the monster zone.

* `ComesTo` — when an attempt succeeds, and what it leaves.
* `Snapshot.Summoned` — a copy has come to the monster zone, and nothing else has changed but the
  normal summons left.
* `Engine.summons_exact` — the three ways to put a monster on the field.
-/

namespace SoloDuel

/-- An attempt succeeds exactly where a copy has what it needs, and leaves what it gives such a
copy. -/
structure ComesTo (attempt : Attempt) (needs : CardInstance → Prop)
    (gives : CardInstance → Snapshot → Prop) : Prop where
  succeeds_iff : (∃ out, attempt = .ok out) ↔ ∃ card, needs card
  gives : ∀ out, attempt = .ok out → ∃ card, needs card ∧ gives card out.state

/-- An attempt that comes down to an operation, which needs room and nothing else of a copy that may
make the attempt. -/
theorem ComesTo.of_operation {attempt operation : Attempt} {may : CardInstance → Prop} {room : Bool}
    {full : Refusal} {after : CardInstance → Outcome} {finish : CardInstance → Outcome → Outcome}
    {gives : CardInstance → Snapshot → Prop}
    (hattempt : ∀ out, attempt = .ok out ↔
      ∃ card, may card ∧ ∃ done, operation = .ok done ∧ finish card done = out)
    (hoperation : ∀ card, may card →
      operation = if room then .ok (after card) else .error full)
    (hgives : ∀ card, may card → gives card (finish card (after card)).state) :
    ComesTo attempt (fun card => may card ∧ room = true) gives := by
  have hok : ∀ out, attempt = .ok out ↔
      ∃ card, (may card ∧ room = true) ∧ finish card (after card) = out := by
    intro out
    rw [hattempt]
    constructor
    · rintro ⟨card, hmay, done, hdone, hout⟩
      rw [hoperation card hmay] at hdone
      split_ifs at hdone with hroom
      cases hdone
      exact ⟨card, ⟨hmay, hroom⟩, hout⟩
    · rintro ⟨card, ⟨hmay, hroom⟩, hout⟩
      exact ⟨card, hmay, after card, (hoperation card hmay).trans (if_pos hroom), hout⟩
  refine ⟨⟨fun ⟨out, h⟩ => ?_, fun ⟨card, hneeds⟩ => ?_⟩, fun out h => ?_⟩
  · obtain ⟨card, hneeds, -⟩ := (hok out).mp h
    exact ⟨card, hneeds⟩
  · exact ⟨_, (hok _).mpr ⟨card, hneeds, rfl⟩⟩
  · obtain ⟨card, hneeds, rfl⟩ := (hok out).mp h
    exact ⟨card, hneeds, hgives card hneeds.1⟩

/-- A copy has come to the end of the monster zone, where it lies in a state, and normal summons
have been used up. Nothing else has changed. -/
structure Snapshot.Summoned (s : Snapshot) (spent : UInt32) (state : FieldState)
    (card : CardInstance) (t : Snapshot) : Prop where
  arrives : s.board.Arrival card .monsterZone state t.board
  rest : t = { s with board := t.board, normalSummonsLeft := s.normalSummonsLeft - spent }

namespace Engine

open Snapshot

variable {e : Engine} {s : Snapshot} {id : InstanceId} {card : CardInstance}

theorem MaySummon.ne_monsterZone {kind : SummonKind} (h : e.MaySummon s id kind card) :
    card.location ≠ .monsterZone := by
  rw [h.inHand]
  decide

theorem MaySpecialSummon.ne_monsterZone (h : e.MaySpecialSummon s id card) :
    card.location ≠ .monsterZone := by
  rcases h.inHandOrGraveyard with hlocation | hlocation <;> rw [hlocation] <;> decide

/-- A normal summon or set, in either position. -/
theorem summonFromHand_comesTo (hs : s.board.Sound) (kind : SummonKind) (placement : Placement)
    (verb : String) :
    ComesTo (e.summonFromHand s id kind placement verb)
      (fun card => e.MaySummon s id kind card ∧ s.hasSpace .monsterZone = true)
      (s.Summoned 1 { placement.fresh with placedThisTurn := true }) := by
  refine .of_operation (fun _ => summonFromHand_eq_ok_iff)
    (fun card hmay => setCard_eq hs hmay.found hmay.ne_monsterZone rfl) fun card hmay => ?_
  refine ⟨arrival_placed hs hmay.found hmay.ne_monsterZone rfl, ?_⟩
  have hleft : (s.placed card .monsterZone placement).normalSummonsLeft ≠ 0 :=
    UInt32.pos_iff_ne_zero.mp hmay.left
  simp only [useNormalSummon, if_neg hleft]
  rfl

/-- A special summon, which leaves the normal summons alone. -/
theorem specialSummon_comesTo (e : Engine) (hs : s.board.Sound) (id : InstanceId) :
    ComesTo (e.specialSummon s id)
      (fun card => e.MaySpecialSummon s id card ∧ s.hasSpace .monsterZone = true)
      (s.Summoned 0 Placement.attack.fresh) := by
  refine .of_operation (fun _ => specialSummon_eq_ok_iff)
    (fun card hmay => moveToField_eq hs hmay.found hmay.ne_monsterZone rfl) fun card hmay => ?_
  refine ⟨arrival_moved hs hmay.found hmay.ne_monsterZone rfl, ?_⟩
  rw [UInt32.sub_zero]
  rfl

/-- **What a summon needs and what it changes.** On a snapshot that passes the check, a normal
summon succeeds exactly for a copy that may be summoned and has room, and puts it face-up in attack
position at the end of the monster zone, as placed this turn, at the price of one normal summon. A
set puts it there face-down in defense position under the same conditions, with its own rules. A
special summon succeeds exactly for a copy that may be special summoned and has room, and puts it
face-up in attack position. Nothing else is changed. -/
theorem summons_exact (e : Engine) (hs : s.check = .ok ()) (id : InstanceId) :
    ComesTo (e.normalSummon s id)
        (fun card => e.MaySummon s id .normal card ∧ s.hasSpace .monsterZone = true)
        (s.Summoned 1 { face := .up, position := some .attack, placedThisTurn := true }) ∧
      ComesTo (e.setMonster s id)
        (fun card => e.MaySummon s id .set card ∧ s.hasSpace .monsterZone = true)
        (s.Summoned 1 { face := .down, position := some .defense, placedThisTurn := true }) ∧
      ComesTo (e.specialSummon s id)
        (fun card => e.MaySpecialSummon s id card ∧ s.hasSpace .monsterZone = true)
        (fun card t => ∃ placed,
          s.Summoned 0 { face := .up, position := some .attack, placedThisTurn := placed } card t)
    := by
  have hsound : s.board.Sound := Board.check_eq_ok_iff.mp hs
  refine ⟨summonFromHand_comesTo hsound _ _ _, summonFromHand_comesTo hsound _ _ _, ?_⟩
  have hspecial := specialSummon_comesTo e hsound id
  refine ⟨hspecial.succeeds_iff, fun out h => ?_⟩
  obtain ⟨card, hneeds, hsummoned⟩ := hspecial.gives out h
  exact ⟨card, hneeds, false, hsummoned⟩

/-- A warrior in the hand in the main phase. -/
def warriorInHand : Snapshot :=
  { Sequencer.cardless with
    phase := .main
    board :=
      { hand := [.new ⟨1⟩ (.monster ⟨1⟩ "Warrior" .normal ⟨4, 1700, 1000, .warrior⟩) .hand] } }

/-- Without rules the warrior may be normal summoned, and the one summon of the turn is spent. -/
theorem normalSummon_warriorInHand : warriorInHand.check = .ok () ∧
    ∃ out, (Engine.bare {}).normalSummon warriorInHand ⟨1⟩ = .ok out ∧
      out.state.normalSummonsLeft = 0 ∧ out.state.zone .hand = [] := by
  have hs : warriorInHand.check = .ok () := rfl
  obtain ⟨hnormal, -, -⟩ := summons_exact (.bare {}) hs ⟨1⟩
  have hpermit : ∀ category ctx, (Engine.bare {}).book.AllPermit category warriorInHand ctx :=
    fun _ _ rule hrule => absurd hrule List.not_mem_nil
  obtain ⟨out, hout⟩ := hnormal.succeeds_iff.mpr ⟨.new ⟨1⟩ _ .hand,
    ⟨rfl, rfl, rfl, rfl, rfl, by decide, by decide, hpermit _ _, hpermit _ _⟩, rfl⟩
  obtain ⟨card, ⟨hmay, -⟩, hsummoned⟩ := hnormal.gives out hout
  obtain rfl := Option.some.inj hmay.found
  refine ⟨hs, out, hout, ?_, hsummoned.arrives.source⟩
  rw [hsummoned.rest]
  rfl

end Engine

end SoloDuel
