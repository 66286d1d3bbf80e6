import SoloDuel.Proofs.Activation.EnterPlay
import SoloDuel.Proofs.Engine.Reachable
import SoloDuel.Proofs.Sequencer.Protocol
/-!
# Decided duels

Once a duel is decided, every command that moves cards, goes through phases or starts an activation
is refused or changes nothing. Settling is the exception: it has cards destroy themselves without
asking whether the duel is over.

* `Engine.frozen_of_isTerminal` — what is left of the commands once the duel is decided.
* `Engine.settle_changes_decided` — a decided duel that settling changes.
-/

namespace SoloDuel

variable {s : Snapshot}

/-! ## Turns and results -/

namespace Snapshot

theorem advancePhase_of_isTerminal (h : s.isTerminal = true) : s.advancePhase = s := if_pos h

theorem advanceTo_of_isTerminal (h : s.isTerminal = true) (phase : Phase) :
    s.advanceTo phase = s := if_pos (.inr h)

theorem requireMain_of_isTerminal (h : s.isTerminal = true) :
    s.requireMain = .error .decided := if_pos h

end Snapshot

namespace RuleBook

theorem settleResult_of_isTerminal (book : RuleBook) (h : s.isTerminal = true) (drawDue : Bool) :
    book.settleResult s drawDue = s := if_neg fun hover => hover.2 h

/-- With nothing to destroy, self-destruction leaves the snapshot alone. -/
theorem applySelfDestruction_of_nil {book : RuleBook} (h : book.selfDestructing s = []) :
    book.applySelfDestruction s = .ok { state := s } := by
  rw [applySelfDestruction, h]
  rfl

end RuleBook

/-! ## Commands -/

/-- Whether a command has cards destroyed. -/
def Command.destroys : Command → Bool
  | settle | destroy _ | applySelfDestruction => true
  | _ => false

namespace Engine

/-- A command that destroys nothing is refused or changes nothing once the duel is decided. -/
theorem eq_of_command_of_isTerminal {e : Engine} (h : s.isTerminal = true) {c : Command}
    {out : Outcome} (hc : c.destroys = false) (hout : c.perform e s = .ok out) : out.state = s := by
  cases c with
  | advancePhase =>
    cases hout
    exact Snapshot.advancePhase_of_isTerminal h
  | advanceTo phase =>
    cases hout
    exact Snapshot.advanceTo_of_isTerminal h phase
  | drawForTurn =>
    obtain ⟨t, ht, -⟩ := exists_of_map_eq_ok hout
    rw [drawForTurn, if_pos h] at ht
    cases ht
  | evaluateVictory drawDue =>
    cases hout
    exact e.book.settleResult_of_isTerminal h drawDue
  | normalSummon | setMonster | setSpellTrap =>
    obtain ⟨⟨⟩, hmain, -⟩ := bind_eq_ok.mp hout
    rw [Snapshot.requireMain_of_isTerminal h] at hmain
    cases hmain
  | specialSummon id =>
    have hrefused : e.specialSummon s id = .error .decided := by
      rw [specialSummon, if_pos h]
      rfl
    cases hrefused.symm.trans hout
  | settle | destroy | applySelfDestruction => cases hc

/-- No activation is allowed once the duel is decided. -/
theorem activate_ne_ready {e : Engine} (h : s.isTerminal = true) (source : InstanceId)
    (category : EffectCategory) (q : Sequencer) :
    e.activate s source category ≠ .ok (.ready q) := by
  intro hready
  obtain ⟨effect, -, hvalid, -⟩ := activate_eq_ready_iff.mp hready
  obtain ⟨⟨⟩, htemplate, -⟩ := bind_eq_ok.mp hvalid
  obtain ⟨hongoing, -⟩ := ActivationTemplate.of_validate htemplate
  rw [h] at hongoing
  cases hongoing

/-- **A decided duel is frozen as long as nothing is destroyed.** Whatever the cards and rules are,
every command that destroys nothing is refused or gives the snapshot back, no activation is allowed,
and settling gives the snapshot back where no rule has a card destroy itself. -/
theorem frozen_of_isTerminal (e : Engine) (h : s.isTerminal = true) :
    (∀ c out, Command.destroys c = false → c.perform e s = .ok out → out.state = s) ∧
      (∀ source category q, e.activate s source category ≠ .ok (.ready q)) ∧
      (e.book.selfDestructing s = [] → e.settle s = .ok s) := by
  refine ⟨fun c out hc hout => eq_of_command_of_isTerminal h hc hout, activate_ne_ready h, ?_⟩
  intro hnone
  rw [settle, RuleBook.applySelfDestruction_of_nil hnone]
  exact congrArg Except.ok (e.book.settleResult_of_isTerminal h false)

/-- A lost duel with one monster left on the field. -/
def lostWith (monster : CardData) : Snapshot :=
  { Sequencer.cardless with
    board := { monsterZone := [.new ⟨1⟩ monster .monsterZone] }
    result := .decided .opponent .lifeDepleted }

def toonMermaidCard : CardData :=
  .monster Passcode.toonMermaid "Toon Mermaid" .effect ⟨4, 1400, 1500, .aqua⟩

def harpieCard : CardData :=
  .monster Passcode.harpieLady1 "Harpie Lady 1" .effect ⟨4, 1300, 1400, .wingedBeast⟩

/-- A lost duel with a monster that no rule destroys stays as it is. -/
theorem frozen_with_harpie :
    (lostWith harpieCard).isTerminal = true ∧
      (Library.engine {}).book.selfDestructing (lostWith harpieCard) = [] ∧
      (Library.engine {}).settle (lostWith harpieCard) = .ok (lostWith harpieCard) := by
  have hnone : (Library.engine {}).book.selfDestructing (lostWith harpieCard) = [] := by
    decide +kernel
  exact ⟨rfl, hnone, (frozen_of_isTerminal (Library.engine {}) rfl).2.2 hnone⟩

/-- **Settling goes on after the end of a duel.** A Toon Mermaid without Toon World still destroys
itself when the duel is lost already. -/
theorem settle_changes_decided :
    (lostWith toonMermaidCard).isTerminal = true ∧
      ∃ t, (Library.engine {}).settle (lostWith toonMermaidCard) = .ok t ∧
        t.count .graveyard = 1 ∧ t ≠ lostWith toonMermaidCard := by
  have hrun : ((Library.engine {}).settle (lostWith toonMermaidCard)).toOption.map
      (·.count .graveyard) = some 1 := by
    decide +kernel
  obtain ⟨t, ht, hcount⟩ := Option.map_eq_some_iff.mp hrun
  refine ⟨rfl, t, eq_ok_of_toOption ht, hcount, ?_⟩
  rintro rfl
  cases hcount

end Engine

end SoloDuel
