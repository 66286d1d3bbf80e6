import Mathlib.Data.List.DropRight
import SoloDuel.Proofs.Board.Moves
import SoloDuel.Snapshot.Opening
/-!
# Cards from the top of the deck

Cards go from the top of the deck to the hand one at a time, each looked up again among all the
copies on the board. On a board without repeated copies this comes to cutting the deck in two and
turning over the part that is taken.

* `Board.dealt` — a board with cards gone from the deck to the hand.
* `relocated_top` — the one card on top; `dealt_dealt` — some cards and then others.
* `dealt_induction` — what every single move keeps; `Sound.dealt`, `roster_dealt` are cases of it.
* `dealHand_eq` — an opening hand is dealt.
-/

namespace SoloDuel.Board

variable {b : Board} {card : CardInstance}

/-- The board with a number of cards gone from the top of the deck to the hand, the topmost first.
Of a smaller deck all cards go. -/
def dealt (b : Board) (n : Nat) : Board :=
  { b with
    deck := b.deck.rdrop n
    hand := b.hand ++ (b.deck.rtake n).reverse.map (·.movedTo .hand .faceUp) }

@[simp] theorem dealt_zero (b : Board) : b.dealt 0 = b := by
  simp [dealt]

@[simp] theorem zone_deck_dealt (b : Board) (n : Nat) :
    (b.dealt n).zone .deck = (b.zone .deck).rdrop n := rfl

@[simp] theorem zone_hand_dealt (b : Board) (n : Nat) :
    (b.dealt n).zone .hand =
      b.zone .hand ++ ((b.zone .deck).rtake n).reverse.map (·.movedTo .hand .faceUp) := rfl

theorem zone_dealt_of_ne {name : ZoneName} (hdeck : name ≠ .deck) (hhand : name ≠ .hand)
    (b : Board) (n : Nat) : (b.dealt n).zone name = b.zone name := by
  cases name with
  | deck => exact absurd rfl hdeck
  | hand => exact absurd rfl hhand
  | _ => rfl

@[simp] theorem count_deck_dealt (b : Board) (n : Nat) :
    (b.dealt n).count .deck = b.count .deck - n := by
  simp [count, List.rdrop]

theorem count_hand_dealt (b : Board) (n : Nat) :
    (b.dealt n).count .hand = b.count .hand + min n (b.count .deck) := by
  simp [count, List.rtake_eq_reverse_take_reverse]

/-- **Cards dealt and then others dealt are cards dealt.** -/
theorem dealt_dealt (b : Board) (m n : Nat) : (b.dealt m).dealt n = b.dealt (m + n) := by
  simp [dealt, List.rdrop_eq_reverse_drop_reverse, List.rtake_eq_reverse_take_reverse,
    List.take_add]

/-- From an empty deck nothing is dealt. -/
theorem dealt_of_top?_eq_none (h : b.top? .deck = none) (n : Nat) : b.dealt n = b := by
  have hdeck : b.deck = [] := List.getLast?_eq_none_iff.mp h
  cases b
  simp_all [dealt]

/-- Moving the card on top of the deck to the hand deals it. -/
theorem relocated_top (hb : b.ids.Nodup) (htop : b.top? .deck = some card) :
    b.relocated card .hand .faceUp = b.dealt 1 := by
  obtain ⟨below, hdeck⟩ := List.getLast?_eq_some_iff.mp htop
  have hcard : card ∈ b.zone .deck := List.mem_of_getLast? htop
  refine ext_zone fun name => ?_
  cases name with
  | deck =>
    have hplace : (b.zone .deck)[below.length]? = some card := by
      simp [hdeck]
    rw [zone_relocated, if_neg (by decide), ← eraseIdx_eq_filter (zone_nodup hb .deck) hplace,
      zone_deck_dealt, hdeck, List.rdrop_concat_succ,
      List.eraseIdx_append_of_length_le (Nat.le_refl _)]
    simp
  | hand =>
    rw [zone_relocated_target hb hcard (by decide), zone_hand_dealt, hdeck, List.rtake_concat_succ]
    simp
  | _ => exact zone_relocated_of_ne hb hcard (by decide) (by decide)

/-- **What a move from the top of the deck to the hand keeps, dealing cards keeps.** -/
theorem dealt_induction {motive : Board → Prop} (hb : b.ids.Nodup) (hmotive : motive b)
    (step : ∀ b card, b.ids.Nodup → card ∈ b.zone .deck → motive b →
      motive (b.relocated card .hand .faceUp)) (n : Nat) : motive (b.dealt n) := by
  induction n generalizing b with
  | zero => simpa using hmotive
  | succ n ih =>
    cases htop : b.top? .deck with
    | none =>
      rw [dealt_of_top?_eq_none htop]
      exact hmotive
    | some card =>
      have hcard : card ∈ b.zone .deck := List.mem_of_getLast? htop
      have hids := nodup_ids_of_roster_perm (roster_relocated hb hcard .hand .faceUp) hb
      rw [Nat.add_comm, ← dealt_dealt, ← relocated_top hb htop]
      exact ih hids (step b card hb hcard hmotive)

theorem Sound.dealt (h : b.Sound) (n : Nat) : (b.dealt n).Sound :=
  dealt_induction h.distinct h (fun _ _ _ hcard hb => hb.relocated hcard .hand .faceUp) n

theorem roster_dealt (hb : b.ids.Nodup) (n : Nat) : (b.dealt n).roster.Perm b.roster :=
  dealt_induction (motive := fun b' => b'.roster.Perm b.roster) hb (.refl _)
    (fun _ _ hids hcard hb => (roster_relocated hids hcard .hand .faceUp).trans hb) n

/-- **An opening hand is dealt from the top of the deck.** -/
theorem dealHand_eq (hb : b.ids.Nodup) (n : Nat) : b.dealHand n = b.dealt n := by
  induction n generalizing b with
  | zero => simp [dealHand]
  | succ n ih =>
    unfold dealHand
    cases htop : b.top? .deck with
    | none =>
      simp only
      rw [ih hb, dealt_of_top?_eq_none htop, dealt_of_top?_eq_none htop]
    | some card =>
      have hcard : card ∈ b.zone .deck := List.mem_of_getLast? htop
      have hids := nodup_ids_of_roster_perm (roster_relocated hb hcard .hand .faceUp) hb
      simp only [moveTo_eq hb (find?_of_mem hb hcard)]
      rw [ih hids, relocated_top hb htop, dealt_dealt, Nat.add_comm]

end SoloDuel.Board
