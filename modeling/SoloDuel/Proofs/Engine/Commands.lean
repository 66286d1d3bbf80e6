import SoloDuel.Proofs.Rule.Permissions
import SoloDuel.Proofs.Snapshot.Operations
/-!
# What commands are made of

A command of an engine handles cards and life, uses up a normal summon, decides the duel, or goes
through the phases. Whatever relation between snapshots covers these, and what the rules put in the
place of a destruction, covers the command.

* `Snapshot.Settles`, `Snapshot.Clears`, `Snapshot.Covers` — what is asked of the relation: for the
  commands that draw, destroy and decide the duel, one by one or at once, and for all that do not go
  through the phases. `RuleBook.Replaces` — what is asked of the rules.
* `Engine.MaySummon`, `Engine.summonFromHand_eq_ok_iff` and the like — what the commands that put a
  card on the field ask for, and the operation they come down to.
* `Engine.of_settling`, `Engine.of_clearing` — the commands that draw, destroy and decide the duel;
  `Engine.of_command` — all that do not go through the phases.
* `Engine.leads_of_command` — every command comes down to elementary changes.
-/

namespace SoloDuel

open Snapshot

variable {R : Snapshot → Snapshot → Prop} {s t : Snapshot} {out : Outcome} {id : InstanceId}

/-! ## Turns -/

namespace Snapshot

theorem leads_advancePhase (s : Snapshot) : Leads s s.advancePhase := by
  unfold advancePhase
  split
  · exact .refl
  · split
    · exact (Change.turn s).leads.tail (.phase s.beginTurn _)
    · exact (Change.phase s _).leads

theorem leads_advanceWithin (target : Phase) (n : Nat) (s : Snapshot) :
    Leads s (s.advanceWithin target n) := by
  induction n generalizing s with
  | zero => exact .refl
  | succ n ih =>
    unfold advanceWithin
    split
    · exact .refl
    · exact (leads_advancePhase s).trans (ih s.advancePhase)

/-- The relation holds across a card that is sent to the graveyard, a draw, and deciding the
duel. -/
structure Settles (R : Snapshot → Snapshot → Prop) : Prop where
  refl : ∀ s, R s s
  trans : ∀ {s t u}, R s t → R t u → R s u
  sent : ∀ {s : Snapshot} {id : InstanceId} {out : Outcome}, s.sendToGraveyard id = .ok out →
    R s out.state
  drawn : ∀ {s : Snapshot} {n : Nat} {out : Outcome}, s.draw n = .ok out → R s out.state
  /-- A duel that is not over is decided. -/
  decided : ∀ (s : Snapshot) (winner : Side) (reason : VictoryReason), s.isTerminal = false →
    R s { s with result := .decided winner reason }

/-- The relation holds across what drawing, destroying and deciding the duel do. -/
structure Clears (R : Snapshot → Snapshot → Prop) : Prop where
  trans : ∀ {s t u}, R s t → R t u → R s u
  spares : ∀ {s t}, Spares (fun _ => True) s t → R s t
  /-- A duel that is not over is decided. -/
  decided : ∀ (s : Snapshot) (winner : Side) (reason : VictoryReason), s.isTerminal = false →
    R s { s with result := .decided winner reason }

/-- The relation holds across what commands do besides going through the phases. -/
structure Covers (R : Snapshot → Snapshot → Prop) : Prop where
  trans : ∀ {s t u}, R s t → R t u → R s u
  handles : ∀ {s t}, Handles s t → R s t
  summonUsed : ∀ s : Snapshot, R s s.useNormalSummon
  /-- A duel that is not over is decided. -/
  decided : ∀ (s : Snapshot) (winner : Side) (reason : VictoryReason), s.isTerminal = false →
    R s { s with result := .decided winner reason }

theorem Clears.settles (hR : Clears R) : Settles R where
  refl := fun _ => hR.spares .refl
  trans := hR.trans
  sent := fun h => hR.spares (spares_of_sendToGraveyard _ trivial h)
  drawn := fun h => hR.spares (spares_of_draw _ h)
  decided := hR.decided

theorem Covers.clears (hR : Covers R) : Clears R where
  trans := hR.trans
  spares := fun h => hR.handles h.handles
  decided := hR.decided

theorem covers_leads : Covers Leads where
  trans := .trans
  handles := Handles.leads
  summonUsed := fun s => (Change.summonUsed s).leads
  decided := fun s winner reason h => (Change.decided s winner reason h).leads

end Snapshot

/-! ## Destruction and victory -/

namespace RuleBook

variable {book : RuleBook}

/-- The relation holds across what the rules put in the place of a destruction. -/
def Replaces (book : RuleBook) (R : Snapshot → Snapshot → Prop) : Prop :=
  ∀ rule ∈ book.rules.values, ∀ s ctx replaced out, rule.replace s ctx = some replaced →
    replaced = .ok out → R s out.state

theorem Replaces.mono {R' : Snapshot → Snapshot → Prop} (h : book.Replaces R)
    (hR : ∀ {s t}, R s t → R' s t) : book.Replaces R' :=
  fun rule hrule s ctx replaced out hreplace hout =>
    hR (h rule hrule s ctx replaced out hreplace hout)

theorem of_destroy (hR : Settles R) (hbook : book.Replaces R) (h : book.destroy s id = .ok out) :
    R s out.state := by
  rw [destroy] at h
  split at h
  · cases h
  · split at h
    · dsimp only at h
      split at h
      · rename_i replaced hreplace
        obtain ⟨rule, hrule, hreplace⟩ := List.exists_of_findSome?_eq_some hreplace
        have hmem : rule ∈ book.rules.values := (mem_applicable_iff.mp hrule).1
        exact hbook rule hmem s _ replaced out hreplace h
      · obtain ⟨sent, hsent, hout⟩ := bind_eq_ok.mp h
        cases hout
        have hsends : R s sent.state := hR.sent hsent
        exact hsends
    · cases h

theorem of_applySelfDestruction (hR : Settles R) (hbook : book.Replaces R)
    (h : book.applySelfDestruction s = .ok out) : R s out.state := by
  refine foldlM_induction (P := fun out : Outcome => R s out.state) ?_ (hR.refl s) h
  intro before id after hbefore hnext
  obtain ⟨next, hdestroy, hafter⟩ := bind_eq_ok.mp hnext
  cases hafter
  have hdestroyed : R before.state next.state := of_destroy hR hbook hdestroy
  exact hR.trans hbefore hdestroyed

theorem of_settleResult (hR : Settles R) (book : RuleBook) (s : Snapshot) (drawDue : Bool) :
    R s (book.settleResult s drawDue) := by
  unfold settleResult
  dsimp only
  split
  · rename_i h
    obtain ⟨hover, hongoing⟩ := h
    cases hresult : book.evaluate s drawDue with
    | ongoing =>
      rw [hresult] at hover
      cases hover
    | decided winner reason =>
      exact hR.decided s winner reason (Bool.eq_false_iff.mpr hongoing)
  · exact hR.refl s

end RuleBook

/-! ## What commands ask for -/

theorem Snapshot.requireMain_eq_ok_iff :
    s.requireMain = .ok () ↔ s.isTerminal = false ∧ s.phase = .main := by
  unfold requireMain
  split_ifs with hover hphase <;> simp_all

theorem Snapshot.cardIn_eq_ok_iff {zones : List ZoneName} {card : CardInstance} :
    s.cardIn id zones = .ok card ↔ s.find? id = some card ∧ card.location ∈ zones := by
  unfold cardIn
  cases s.find? id with
  | none => simp
  | some c =>
    dsimp only
    split_ifs with hzone
    · simp only [Except.ok.injEq, Option.some.injEq, iff_self_and]
      rintro rfl
      exact hzone
    · simp only [Option.some.injEq, false_iff, not_and]
      rintro rfl
      exact hzone

theorem CardInstance.requireMonster_eq_ok_iff {card : CardInstance} :
    card.requireMonster = .ok () ↔ card.data.isMonster = true := by
  unfold requireMonster
  split_ifs with h <;> simp [h]

/-! ## The commands -/

namespace Command

/-- Whether a command goes through the phases. -/
def advances : Command → Bool
  | advancePhase | advanceTo _ => true
  | _ => false

/-- Whether a command draws, destroys or decides the duel. -/
def clears : Command → Bool
  | drawForTurn | settle | evaluateVictory _ | destroy _ | applySelfDestruction => true
  | _ => false

/-- Whether a command uses up a normal summon. -/
def summonsNormally : Command → Bool
  | normalSummon _ | setMonster _ => true
  | _ => false

end Command

namespace Engine

variable {e : Engine}

theorem of_drawForTurn (hR : Settles R) (h : e.drawForTurn s = .ok t) : R s t := by
  unfold drawForTurn at h
  split at h
  · cases h
  · split at h
    · cases h
    · split at h
      · cases h
        exact e.book.of_settleResult hR s true
      · obtain ⟨drawn, hdraw, hout⟩ := bind_eq_ok.mp h
        cases hout
        exact hR.trans (hR.drawn hdraw) (e.book.of_settleResult hR _ false)

theorem of_settle (hR : Settles R) (hbook : e.book.Replaces R) (h : e.settle s = .ok t) :
    R s t := by
  obtain ⟨settled, hsettle, hout⟩ := bind_eq_ok.mp h
  cases hout
  exact hR.trans (RuleBook.of_applySelfDestruction hR hbook hsettle)
    (e.book.of_settleResult hR _ false)

/-- What a copy needs for a normal summon or set from the hand, but for room in the zone. -/
structure MaySummon (e : Engine) (s : Snapshot) (id : InstanceId) (kind : SummonKind)
    (card : CardInstance) : Prop where
  undecided : s.isTerminal = false
  main : s.phase = .main
  found : s.find? id = some card
  inHand : card.location = .hand
  monster : card.data.isMonster = true
  level : card.data.level ≤ 4
  left : 0 < s.normalSummonsLeft
  conditions : e.book.AllPermit .summonCondition s (.summon card kind)
  permissions : e.book.AllPermit .summonPermission s (.summon card kind)

/-- A normal summon or set uses up a normal summon and sets a monster from the hand. -/
theorem summonFromHand_eq_ok_iff {kind : SummonKind} {placement : Placement} {verb : String} :
    e.summonFromHand s id kind placement verb = .ok out ↔
      ∃ card, e.MaySummon s id kind card ∧ ∃ set, s.setCard id .monsterZone placement = .ok set ∧
        { set with
          state := set.state.useNormalSummon
          message := s!"{card.name} {verb}" } = out := by
  constructor
  · intro h
    obtain ⟨⟨⟩, hmain, h⟩ := bind_eq_ok.mp h
    obtain ⟨card, hcard, h⟩ := bind_eq_ok.mp h
    obtain ⟨⟨⟩, hmonster, h⟩ := bind_eq_ok.mp h
    dsimp only at h
    split at h
    · cases h
    · rename_i hlevel
      split at h
      · cases h
      · rename_i hleft
        obtain ⟨⟨⟩, hrules, h⟩ := bind_eq_ok.mp h
        obtain ⟨set, hset, hout⟩ := bind_eq_ok.mp h
        rw [requireMain_eq_ok_iff] at hmain
        rw [cardIn_eq_ok_iff, List.mem_singleton] at hcard
        rw [RuleBook.checkSummon_eq_ok_iff] at hrules
        exact ⟨card, ⟨hmain.1, hmain.2, hcard.1, hcard.2,
          CardInstance.requireMonster_eq_ok_iff.mp hmonster, UInt8.not_lt.mp hlevel,
          UInt32.pos_iff_ne_zero.mpr hleft, hrules.1, hrules.2⟩, set, hset, Except.ok.inj hout⟩
  · rintro ⟨card, h, set, hset, hout⟩
    have hmain : s.requireMain = .ok () := requireMain_eq_ok_iff.mpr ⟨h.undecided, h.main⟩
    have hcard : s.cardIn id [.hand] = .ok card :=
      cardIn_eq_ok_iff.mpr ⟨h.found, List.mem_singleton.mpr h.inHand⟩
    have hmonster : card.requireMonster = .ok () :=
      CardInstance.requireMonster_eq_ok_iff.mpr h.monster
    have hrules : e.book.checkSummon s card kind = .ok () :=
      RuleBook.checkSummon_eq_ok_iff.mpr ⟨h.conditions, h.permissions⟩
    have hlevel : ¬ tributeFreeLevel < card.data.level := UInt8.not_lt.mpr h.level
    simp only [summonFromHand, hmain, hcard, hmonster, hrules, hset, bind, Except.bind,
      if_neg hlevel, if_neg (UInt32.pos_iff_ne_zero.mp h.left)]
    exact congrArg Except.ok hout

/-- A normal summon or set that is not refused puts a monster on the field. -/
theorem exists_of_summonFromHand {kind : SummonKind} {placement : Placement} {verb : String}
    (h : e.summonFromHand s id kind placement verb = .ok out) :
    ∃ card set, s.find? id = some card ∧ card.data.isMonster = true ∧
      s.normalSummonsLeft ≠ 0 ∧ s.setCard id .monsterZone placement = .ok set ∧
      out.state = set.state.useNormalSummon := by
  obtain ⟨card, hmay, set, hset, rfl⟩ := summonFromHand_eq_ok_iff.mp h
  exact ⟨card, set, hmay.found, hmay.monster, UInt32.pos_iff_ne_zero.mp hmay.left, hset, rfl⟩

theorem of_summonFromHand (hR : Covers R) {kind : SummonKind} {placement : Placement}
    {verb : String} (h : e.summonFromHand s id kind placement verb = .ok out) : R s out.state := by
  obtain ⟨card, set, -, -, -, hset, hout⟩ := exists_of_summonFromHand h
  rw [hout]
  exact hR.trans (hR.handles (handles_of_setCard hset)) (hR.summonUsed set.state)

/-- What a copy needs for a special summon, but for room in the zone. -/
structure MaySpecialSummon (e : Engine) (s : Snapshot) (id : InstanceId) (card : CardInstance) :
    Prop where
  undecided : s.isTerminal = false
  found : s.find? id = some card
  inHandOrGraveyard : card.location = .hand ∨ card.location = .graveyard
  monster : card.data.isMonster = true
  conditions : e.book.AllPermit .summonCondition s (.summon card .special)
  permissions : e.book.AllPermit .summonPermission s (.summon card .special)

/-- A special summon moves a monster from the hand or the graveyard to the field. -/
theorem specialSummon_eq_ok_iff :
    e.specialSummon s id = .ok out ↔
      ∃ card, e.MaySpecialSummon s id card ∧
        ∃ moved, s.moveToField id .monsterZone .attack = .ok moved ∧
          { moved with message := s!"{card.name} special summoned" } = out := by
  constructor
  · intro h
    unfold specialSummon at h
    split at h
    · cases h
    · rename_i hopen
      obtain ⟨card, hcard, h⟩ := bind_eq_ok.mp h
      obtain ⟨⟨⟩, hmonster, h⟩ := bind_eq_ok.mp h
      obtain ⟨⟨⟩, hrules, h⟩ := bind_eq_ok.mp h
      obtain ⟨moved, hmove, hout⟩ := bind_eq_ok.mp h
      rw [cardIn_eq_ok_iff, List.mem_pair] at hcard
      rw [RuleBook.checkSummon_eq_ok_iff] at hrules
      exact ⟨card, ⟨Bool.eq_false_iff.mpr hopen, hcard.1, hcard.2,
        CardInstance.requireMonster_eq_ok_iff.mp hmonster, hrules.1, hrules.2⟩, moved, hmove,
        Except.ok.inj hout⟩
  · rintro ⟨card, h, moved, hmove, hout⟩
    have hcard : s.cardIn id [.hand, .graveyard] = .ok card :=
      cardIn_eq_ok_iff.mpr ⟨h.found, List.mem_pair.mpr h.inHandOrGraveyard⟩
    have hmonster : card.requireMonster = .ok () :=
      CardInstance.requireMonster_eq_ok_iff.mpr h.monster
    have hrules : e.book.checkSummon s card .special = .ok () :=
      RuleBook.checkSummon_eq_ok_iff.mpr ⟨h.conditions, h.permissions⟩
    simp only [specialSummon, h.undecided, hcard, hmonster, hrules, hmove, bind, Except.bind]
    exact congrArg Except.ok hout

/-- A special summon that is not refused puts a monster on the field. -/
theorem exists_of_specialSummon (h : e.specialSummon s id = .ok out) :
    ∃ card moved, s.find? id = some card ∧ card.data.isMonster = true ∧
      s.moveToField id .monsterZone .attack = .ok moved ∧ out.state = moved.state := by
  obtain ⟨card, hmay, moved, hmove, rfl⟩ := specialSummon_eq_ok_iff.mp h
  exact ⟨card, moved, hmay.found, hmay.monster, hmove, rfl⟩

/-- Setting a spell or trap sets a card from the hand that is no monster. -/
theorem setSpellTrap_eq_ok_iff (e : Engine) :
    e.setSpellTrap s id = .ok out ↔
      s.isTerminal = false ∧ s.phase = .main ∧ ∃ card, s.find? id = some card ∧
        card.location = .hand ∧ card.data.isMonster = false ∧
        s.setCard id (settingZone card.data) .set = .ok out := by
  constructor
  · intro h
    obtain ⟨⟨⟩, hmain, h⟩ := bind_eq_ok.mp h
    obtain ⟨card, hcard, h⟩ := bind_eq_ok.mp h
    dsimp only at h
    split at h
    · cases h
    · rename_i hmonster
      rw [requireMain_eq_ok_iff] at hmain
      rw [cardIn_eq_ok_iff, List.mem_singleton] at hcard
      exact ⟨hmain.1, hmain.2, card, hcard.1, hcard.2, Bool.eq_false_iff.mpr hmonster, h⟩
  · rintro ⟨hopen, hphase, card, hfind, hhand, hmonster, hset⟩
    have hmain : s.requireMain = .ok () := requireMain_eq_ok_iff.mpr ⟨hopen, hphase⟩
    have hcard : s.cardIn id [.hand] = .ok card :=
      cardIn_eq_ok_iff.mpr ⟨hfind, List.mem_singleton.mpr hhand⟩
    simp only [setSpellTrap, hmain, hcard, hmonster, bind, Except.bind]
    exact hset

/-- A set that is not refused puts a card that is no monster on the field. -/
theorem exists_of_setSpellTrap (e : Engine) (h : e.setSpellTrap s id = .ok out) :
    ∃ card, s.find? id = some card ∧ card.data.isMonster = false ∧
      s.setCard id (settingZone card.data) .set = .ok out := by
  obtain ⟨-, -, card, hfind, -, hmonster, hset⟩ := e.setSpellTrap_eq_ok_iff.mp h
  exact ⟨card, hfind, hmonster, hset⟩

theorem exists_of_map_eq_ok {ε α β : Type} {x : Except ε α} {f : α → β} {b : β}
    (h : x.map f = .ok b) : ∃ a, x = .ok a ∧ f a = b := by
  cases x with
  | error => cases h
  | ok a => exact ⟨a, rfl, Except.ok.inj h⟩

/-- A normal summon or set puts a monster on the field and uses up a normal summon that is left. -/
theorem exists_of_summonsNormally {c : Command} (hc : c.summonsNormally = true)
    (h : c.perform e s = .ok out) :
    ∃ id placement set, s.normalSummonsLeft ≠ 0 ∧ s.setCard id .monsterZone placement = .ok set ∧
      out.state = set.state.useNormalSummon := by
  cases c with
  | normalSummon id | setMonster id =>
    obtain ⟨-, set, -, -, hleft, hset, hout⟩ := exists_of_summonFromHand h
    exact ⟨id, _, set, hleft, hset, hout⟩
  | _ => cases hc

/-- A relation that holds across draws, cards sent to the graveyard and deciding the duel, and what
the rules put in the place of a destruction, holds across the commands that do no more than that. -/
theorem of_settling (hR : Settles R) (hbook : e.book.Replaces R) {c : Command}
    (hc : c.clears = true) (h : c.perform e s = .ok out) : R s out.state := by
  cases c with
  | drawForTurn =>
    obtain ⟨t, ht, rfl⟩ := exists_of_map_eq_ok h
    exact of_drawForTurn hR ht
  | settle =>
    obtain ⟨t, ht, rfl⟩ := exists_of_map_eq_ok h
    exact of_settle hR hbook ht
  | evaluateVictory drawDue =>
    cases h
    exact e.book.of_settleResult hR s drawDue
  | destroy => exact RuleBook.of_destroy hR hbook h
  | applySelfDestruction => exact RuleBook.of_applySelfDestruction hR hbook h
  | _ => cases hc

theorem of_clearing (hR : Clears R) (hbook : e.book.Replaces R) {c : Command}
    (hc : c.clears = true) (h : c.perform e s = .ok out) : R s out.state :=
  of_settling hR.settles hbook hc h

/-- **What commands are made of.** A relation that covers what commands do, and what the rules put
in the place of a destruction, holds across every command that does not go through the phases. -/
theorem of_command (hR : Covers R) (hbook : e.book.Replaces R) {c : Command}
    (hc : c.advances = false) (h : c.perform e s = .ok out) : R s out.state := by
  cases c with
  | advancePhase | advanceTo => cases hc
  | drawForTurn | settle | evaluateVictory | destroy | applySelfDestruction =>
    exact of_clearing hR.clears hbook rfl h
  | normalSummon | setMonster => exact of_summonFromHand hR h
  | specialSummon =>
    obtain ⟨card, moved, -, -, hmove, hout⟩ := exists_of_specialSummon h
    rw [hout]
    exact hR.handles (handles_of_moveToField hmove)
  | setSpellTrap =>
    obtain ⟨card, -, -, hset⟩ := e.exists_of_setSpellTrap h
    exact hR.handles (handles_of_setCard hset)

/-- **A command that is not refused comes down to elementary changes.** -/
theorem leads_of_command (hbook : e.book.Replaces Leads) {c : Command}
    (h : c.perform e s = .ok out) : Leads s out.state := by
  cases hc : c.advances with
  | false => exact of_command covers_leads hbook hc h
  | true =>
    cases c with
    | advancePhase =>
      cases h
      exact leads_advancePhase s
    | advanceTo phase =>
      cases h
      exact leads_advanceWithin phase 4 s
    | _ => cases hc

end Engine

end SoloDuel
