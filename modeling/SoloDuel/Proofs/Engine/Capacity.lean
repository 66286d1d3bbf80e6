import SoloDuel.Proofs.Engine.Reachable
/-!
# No zone is overfilled

Whether a zone has room is asked in one place, and not where a copy stays in its zone. Since every
change of a duel comes down to elementary changes, it is enough that none of those puts a card into
a full zone.

* `Board.Within` — no zone holds more cards than it may; `Within.relocated` says what a move keeps.
* `Change.config_eq`, `Change.within` — elementary changes.
* `Engine.within_capacity_of_reachable` — the snapshots of a duel.
-/

namespace SoloDuel

namespace Board

variable {a b : Board} {limits : ZoneCapacity} {name target : ZoneName} {card : CardInstance}

/-- No zone holds more cards than its limit. -/
def Within (b : Board) (limits : ZoneCapacity) : Prop :=
  ∀ name limit, name.capacity limits = some limit → b.count name ≤ limit.toNat

/-- Boards with as many cards in every zone have the same zones within their limits. -/
theorem Within.of_count_eq (h : b.Within limits) (hcount : ∀ name, a.count name = b.count name) :
    a.Within limits := by
  intro name limit hlimit
  rw [hcount name]
  exact h name limit hlimit

/-- There is room in a zone exactly when one more card stays within its limit. -/
theorem hasSpace_eq_true_iff :
    b.hasSpace name limits = true ↔
      ∀ limit, name.capacity limits = some limit → b.count name + 1 ≤ limit.toNat := by
  unfold hasSpace
  cases name.capacity limits with
  | none => simp
  | some limit =>
    constructor
    · intro hroom other hother
      cases hother
      exact of_decide_eq_true hroom
    · intro hroom
      exact decide_eq_true (hroom limit rfl)

/-- A move takes a card off one zone and puts it on another. -/
theorem count_relocated_le (b : Board) (card : CardInstance) (target : ZoneName)
    (placement : Placement) {other : ZoneName} (hother : other ≠ target) :
    (b.relocated card target placement).count other ≤ b.count other := by
  rw [count, zone_relocated, if_neg hother]
  exact List.length_filter_le _ _

/-- A card that is moved within its zone keeps the number of cards there. -/
theorem count_relocated_self (hb : b.ids.Nodup) (hcard : card ∈ b.zone name)
    (placement : Placement) : (b.relocated card name placement).count name = b.count name := by
  have hlength := length_filter_zone hb hcard
  rw [count, zone_relocated, if_pos rfl, List.length_append, List.length_singleton, hlength, count]

theorem count_relocated_target (hb : b.ids.Nodup) (hcard : card ∈ b.zone name)
    (placement : Placement) (hne : target ≠ name) :
    (b.relocated card target placement).count target = b.count target + 1 := by
  rw [count, zone_relocated_target hb hcard hne, List.length_append, List.length_singleton, count]

/-- **A move within a zone, or into one with room, overfills nothing.** -/
theorem Within.relocated (h : b.Within limits) (hb : b.ids.Nodup) (hcard : card ∈ b.zone name)
    (placement : Placement) (hroom : name = target ∨ b.hasSpace target limits = true) :
    (b.relocated card target placement).Within limits := by
  intro other limit hlimit
  by_cases hother : other = target
  · subst hother
    by_cases hname : other = name
    · subst hname
      rw [count_relocated_self hb hcard]
      exact h other limit hlimit
    · have hspace : b.hasSpace other limits = true := hroom.resolve_left fun heq => hname heq.symm
      rw [count_relocated_target hb hcard placement hname]
      exact hasSpace_eq_true_iff.mp hspace limit hlimit
  · have hle := count_relocated_le b card target placement hother
    exact Nat.le_trans hle (h other limit hlimit)

theorem count_mapFields (b : Board) (f : InstanceId → FieldState → FieldState) (name : ZoneName) :
    (b.mapFields f).count name = b.count name := by
  rw [count, zone_mapFields, List.length_map, count]

end Board

namespace Snapshot

variable {s t : Snapshot}

/-- The configuration is settled before the duel. -/
theorem Change.config_eq (h : Change s t) : t.config = s.config := by
  cases h with
  | relocated hmove =>
    rw [(Handling.relocated hmove).eq]
  | _ => rfl

/-- **An elementary change overfills no zone.** -/
theorem Change.within (h : Change s t) (hs : s.board.Sound)
    (hwithin : s.board.Within s.config.capacity) : t.board.Within s.config.capacity := by
  cases h with
  | relocated hmove =>
    obtain ⟨card, hfind, rfl, hroom, rfl⟩ := (relocate_eq_ok_iff hs.distinct).mp hmove
    exact hwithin.relocated hs.distinct (mem_zone_of_find? hs hfind).2 _ hroom
  | fielded id f =>
    rw [modifyField_eq hs.distinct]
    exact hwithin.of_count_eq (Board.count_mapFields _ _)
  | shuffled =>
    have hperm := s.board.shuffleDeck_perm (Generator.ofState s.rng)
    exact hwithin.of_count_eq fun name => (hperm name).length_eq
  | turn =>
    rw [board_beginTurn hs]
    exact hwithin.of_count_eq (Board.count_mapFields _ _)
  | effectUsed source effect =>
    rw [board_markEffect hs.distinct]
    exact hwithin.of_count_eq (Board.count_mapFields _ _)
  | _ => exact hwithin

/-- Elementary changes keep the configuration and every zone within its limit. -/
theorem Leads.within (h : Leads s t) (hs : s.board.Sound)
    (hwithin : s.board.Within s.config.capacity) :
    t.config = s.config ∧ t.board.Within s.config.capacity := by
  induction h with
  | refl => exact ⟨rfl, hwithin⟩
  | tail hleads hstep ih =>
    obtain ⟨hconfig, hmiddle⟩ := ih
    have hafter := hstep.within (Leads.sound hleads hs) (hconfig.symm ▸ hmiddle)
    rw [hconfig] at hafter
    exact ⟨hstep.config_eq.trans hconfig, hafter⟩

/-- A duel opens with the field empty, so within any limits. -/
theorem within_opening {config : DuelConfig} {lookup : CardId → Except RegistryFault CardData}
    {deck : List CardId} (h : opening config lookup deck = .ok s) (limits : ZoneCapacity) :
    s.board.Within limits := by
  intro name limit hlimit
  have hname : name.isOnField = true := by
    cases name <;> first | rfl | cases hlimit
  have hempty : s.board.zone name = [] := opening_zone_eq_nil h hname
  rw [Board.count, hempty]
  exact Nat.zero_le _

end Snapshot

namespace Engine

open Snapshot

variable {e : Engine} {deck : List CardId} {s : Snapshot} {scripts : Script → Prop}

/-- **No zone is ever overfilled.** In every snapshot of a duel the zones on the field hold at most
as many cards as the configuration of the engine says, and the snapshot has this configuration. -/
theorem within_capacity_of_reachable (he : e.Filled scripts) (h : e.Reachable deck s) :
    s.config = e.config ∧ s.count .monsterZone ≤ e.config.capacity.monster.toNat ∧
      s.count .spellTrapZone ≤ e.config.capacity.spellTrap.toNat ∧
      s.count .fieldZone ≤ e.config.capacity.field.toNat := by
  obtain ⟨s₀, hopening, hleads⟩ := exists_leads_of_reachable he.stocked h
  have hconfig₀ : s₀.config = e.config := (exists_of_opening hopening).1.1
  have hsound₀ : s₀.board.Sound := (opening_spec hopening).1
  obtain ⟨hconfig, hwithin⟩ := hleads.within hsound₀ (within_opening hopening _)
  rw [hconfig₀] at hconfig hwithin
  exact ⟨hconfig, hwithin .monsterZone _ rfl, hwithin .spellTrapZone _ rfl,
    hwithin .fieldZone _ rfl⟩

/-- There is one place for a monster, and none for spells and traps. -/
def cramped : DuelConfig :=
  { openingHand := 2
    shuffleOnStart := false
    capacity := { monster := 1, spellTrap := 0 } }

def fourHarpies : List CardId := List.replicate 4 Passcode.harpieLady

/-- With a Harpie Lady set, the monster zone is full. -/
theorem within_capacity_with_one_slot :
    ∃ s, (Library.engine cramped).Reachable fourHarpies s ∧ s.count .monsterZone = 1 ∧
      s.hasSpace .monsterZone = false ∧ s.config = cramped ∧ s.count .monsterZone ≤ 1 ∧
      s.count .spellTrapZone ≤ 0 ∧ s.count .fieldZone ≤ 1 := by
  have hrun : ((((Library.engine cramped).newGame fourHarpies).toOption).bind fun s =>
      ((Command.setMonster (Board.entryId 3)).perform (Library.engine cramped)
        (s.advanceTo .main)).toOption.map fun out =>
          (out.state.count .monsterZone, out.state.hasSpace .monsterZone)) = some (1, false) := by
    decide +kernel
  obtain ⟨s₀, hopening, hrun⟩ := Option.bind_eq_some_iff.mp hrun
  obtain ⟨out, hset, hcounts⟩ := Option.map_eq_some_iff.mp hrun
  obtain ⟨hcount, hspace⟩ := Prod.mk.inj hcounts
  have hmain : (Library.engine cramped).Reachable fourHarpies (s₀.advanceTo .main) :=
    .command (c := .advanceTo .main) (.opening (eq_ok_of_toOption hopening)) rfl
  have hreachable := Reachable.command hmain (eq_ok_of_toOption hset)
  have hfilled := filled_library (fun _ => False) cramped
  exact ⟨out.state, hreachable, hcount, hspace, within_capacity_of_reachable hfilled hreachable⟩

end Engine

end SoloDuel
