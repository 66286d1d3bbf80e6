import SoloDuel.Proofs.Activation.EnterPlay
import SoloDuel.Proofs.Board.Arranged
import SoloDuel.Proofs.Engine.Turns
import SoloDuel.Proofs.Sequencer.Protocol
import SoloDuel.Proofs.Snapshot.Arrival
/-!
# Cards that wait to be activated

A spell or trap that is set lies where its template looks for it, although the zone is chosen by
what is printed on the card in the one place and by the template in the other. It takes up its zone
already, so that it does not matter how full the zone is, and no template asks more of it than to
wait for a turn.

* `ActivationTemplate.Lying` — in the main phase, a copy lies face-down where it is activated from.
* `ActivationTemplate.validate_of_lying` — when a template allows the activation of such a copy.
* `ActivationTemplate.lying_of_setSpellTrap`, `ActivationTemplate.lying_next_turn` — that a copy
  lies so once it is set, and still in the next turn.
* `Engine.validate_of_setSpellTrap` — when a card that was set can be activated.
-/

namespace SoloDuel

open Snapshot

namespace ActivationTemplate

variable {t : ActivationTemplate} {s : Snapshot} {id : InstanceId} {species : CardId}
  {placed : Bool} {data : CardData}

/-- In the main phase of a duel that is not over, a copy of a species that fits the template lies
face-down where the template activates it from. -/
structure Lying (t : ActivationTemplate) (s : Snapshot) (id : InstanceId) (species : CardId)
    (placed : Bool) : Prop where
  undecided : s.isTerminal = false
  main : s.phase = .main
  lies : ∃ card state, s.find? id = some card ∧ card.cardId = species ∧ t.fits card.data = true ∧
    t.destination = some card.location ∧ card.field = some state ∧ state.isFaceUp = false ∧
    state.placedThisTurn = placed

/-- A card that lies face-down where it is activated from passes the check of its location unless it
has to wait. -/
theorem checkLocation_eq_ok_iff {card : CardInstance} {state : FieldState}
    (hzone : t.destination = some card.location) (hfield : card.field = some state)
    (hface : state.isFaceUp = false) :
    t.checkLocation s card = .ok () ↔ ¬ (t.waitsATurn = true ∧ state.placedThisTurn = true) := by
  simp only [checkLocation, hzone, hfield, hface]
  split_ifs <;> simp_all

/-- **A card that lies where it is activated from may be activated unless it has to wait.** -/
theorem validate_of_lying {book : RuleBook} (effect : EffectId)
    (h : t.Lying s id effect.card placed)
    (hbook : book.isActionPermitted s (t.action effect id) = true) :
    t.validate book s id effect .unlimited = .ok () ↔
      ¬ (t.waitsATurn = true ∧ placed = true) := by
  obtain ⟨card, state, hfind, hcard, hfits, hzone, hfield, hface, rfl⟩ := h.lies
  rw [← checkLocation_eq_ok_iff (s := s) hzone hfield hface]
  constructor
  · intro hvalid
    obtain ⟨-, c, hc, -, -, -, hlocation, -⟩ := of_validate hvalid
    obtain rfl := Option.some.inj (hfind.symm.trans hc)
    exact hlocation
  · intro hlocation
    have hphase : t.checkPhase s card = .ok () := if_pos (.inr h.main)
    exact validate_eq_ok h.undecided hfind hphase hcard hfits hlocation rfl hbook

/-- **A card is set where its template looks for it.** -/
theorem destination_eq_settingZone (ht : t ≠ .ignition) (hdata : data.WellFormed)
    (hfits : t.fits data = true) : t.destination = some (Engine.settingZone data) := by
  cases hdata <;> cases t <;>
    simp_all [fits, destination, Engine.settingZone, CardData.monster, CardData.spell,
      CardData.trap]

theorem isOnField_settingZone (data : CardData) :
    (Engine.settingZone data).isOnField = true := by
  unfold Engine.settingZone
  split <;> rfl

/-- **A card that has been set lies where it is activated from**, placed this turn. -/
theorem lying_of_setSpellTrap {e : Engine} {card : CardInstance} {out : Outcome}
    (hs : s.board.Sound) (hfind : s.find? id = some card) (hdata : card.data.WellFormed)
    (ht : t ≠ .ignition) (hfits : t.fits card.data = true)
    (h : e.setSpellTrap s id = .ok out) :
    out.state.board.Sound ∧ t.Lying out.state id card.cardId true := by
  obtain ⟨hopen, hphase, c, hc, hhand, -, hset⟩ := e.setSpellTrap_eq_ok_iff.mp h
  obtain rfl := Option.some.inj (hfind.symm.trans hc)
  obtain ⟨rfl, -⟩ := mem_zone_of_find? hs hfind
  have honField := isOnField_settingZone card.data
  have hne : card.location ≠ Engine.settingZone card.data := by
    intro heq
    rw [← heq, hhand] at honField
    cases honField
  rw [setCard_eq hs hfind hne honField] at hset
  split_ifs at hset with hroom
  cases hset
  have hsound := sound_placed hs hfind (Engine.settingZone card.data) .set
  refine ⟨hsound, hopen, hphase, _, _,
    (arrival_placed hs hfind hne honField).find? hsound, rfl, hfits,
    destination_eq_settingZone ht hdata hfits, rfl, rfl, rfl⟩

/-- **A card that lies where it is activated from still does in the next turn**, and has waited. -/
theorem lying_next_turn (hs : s.board.Sound) (h : t.Lying s id species placed) :
    t.Lying ((s.advanceTo .ending).advanceTo .main) id species false := by
  have hend : s.advanceTo .ending = { s with phase := .ending } := by
    rw [advanceTo_eq h.undecided, h.main]
    rfl
  have hopen : ({ s with phase := .ending } : Snapshot).isTerminal = false := h.undecided
  have hmain : (s.advanceTo .ending).advanceTo .main = { s.beginTurn with phase := .main } := by
    rw [hend, advanceTo_eq hopen]
    rfl
  obtain ⟨card, state, hfind, hcard, hfits, hzone, hfield, hface, -⟩ := h.lies
  rw [hmain]
  refine ⟨h.undecided, rfl, card.mapField (·.resetForTurn), state.resetForTurn, ?_, hcard, hfits,
    hzone, ?_, hface, rfl⟩
  · have hboard : s.beginTurn.find? id = some (card.mapField (·.resetForTurn)) := by
      rw [find?, board_beginTurn hs, Board.find?_mapFields]
      exact congrArg (Option.map _) hfind
    exact hboard
  · exact congrArg (Option.map _) hfield

end ActivationTemplate

namespace Engine

variable {e : Engine} {book : RuleBook} {effect : CardEffect} {s : Snapshot} {id : InstanceId}
  {card : CardInstance} {out : Outcome}

/-- **Setting first and activating later.** Where no rule forbids an activation, a spell or trap
that has been set may be activated in the same turn exactly if its template is that of a normal, a
continuous or a field spell, and in the main phase of the next turn whatever its template is. Other
cards play no part in it, however many there are in the zones. -/
theorem validate_of_setSpellTrap (hs : s.check = .ok ()) (hfind : s.find? id = some card)
    (hdata : card.data.WellFormed) (heffect : effect.card = card.cardId)
    (htemplate : effect.template ≠ .ignition) (hfits : effect.template.fits card.data = true)
    (honce : effect.once = .unlimited)
    (hbook : ∀ t action, book.isActionPermitted t action = true)
    (h : e.setSpellTrap s id = .ok out) :
    (effect.template.validate book out.state id effect.id effect.once = .ok () ↔
        effect.template ∈ [.normalSpell, .continuousSpell, .fieldSpell]) ∧
      effect.template.validate book ((out.state.advanceTo .ending).advanceTo .main) id effect.id
        effect.once = .ok () := by
  obtain ⟨hsound, hlying⟩ := ActivationTemplate.lying_of_setSpellTrap
    (Board.check_eq_ok_iff.mp hs) hfind hdata htemplate hfits h
  rw [← heffect] at hlying
  have hlater := ActivationTemplate.lying_next_turn hsound hlying
  rw [honce, ActivationTemplate.validate_of_lying effect.id hlying (hbook _ _),
    ActivationTemplate.validate_of_lying effect.id hlater (hbook _ _)]
  refine ⟨?_, by simp⟩
  cases ht : effect.template <;> simp_all [ActivationTemplate.waitsATurn]

/-- A trap in the hand in the main phase, with room for a single spell or trap. -/
def trapInHand : Snapshot :=
  { Sequencer.cardless with
    config := { capacity := { spellTrap := 1 } }
    phase := .main
    board := { hand := [.new ⟨1⟩ (.trap ⟨1⟩ "Trap" .normal) .hand] } }

/-- The trap can be set, is refused in the same turn and allowed in the next, in a zone that it
fills. -/
theorem validate_of_set_trapInHand : ∃ out,
    (Engine.bare {}).setSpellTrap trapInHand ⟨1⟩ = .ok out ∧
      out.state.hasSpace .spellTrapZone = false ∧
      ActivationTemplate.normalTrap.validate .empty out.state ⟨1⟩ ⟨⟨1⟩, .activation⟩ .unlimited ≠
        .ok () ∧
      ActivationTemplate.normalTrap.validate .empty
        ((out.state.advanceTo .ending).advanceTo .main) ⟨1⟩ ⟨⟨1⟩, .activation⟩ .unlimited =
        .ok () := by
  have hset : (Engine.bare {}).setSpellTrap trapInHand ⟨1⟩ = .ok _ := rfl
  have hfind : trapInHand.find? ⟨1⟩ = some (.new ⟨1⟩ (.trap ⟨1⟩ "Trap" .normal) .hand) := rfl
  have hbook : ∀ t action, RuleBook.empty.isActionPermitted t action = true := fun _ _ => rfl
  have honce : (CardEffect.new ⟨1⟩ .normalTrap).once = .unlimited := rfl
  obtain ⟨hnow, hlater⟩ := validate_of_setSpellTrap rfl hfind (.trap ⟨1⟩ "Trap" .normal) rfl
    (by decide) rfl honce hbook hset
  exact ⟨_, hset, rfl, fun h => absurd (hnow.mp h) (by decide), hlater⟩

end Engine

end SoloDuel
