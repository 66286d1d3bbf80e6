import SoloDuel.Proofs.Sequencer.Protocol
import SoloDuel.Proofs.Snapshot.Success
/-!
# Draws

A draw asks once whether the deck has enough cards, and then takes them one at a time. Each card is
looked up and moved on the board that the cards before have left, where it is still on top of the
deck, so that no card is ever missed: a draw is refused before its first card or not at all.

* `draw_add_iff` — a draw in two parts.
* `exists_drawUntil_iff` — a draw up to a size of the hand.
* `Snapshot.Draws` — what a draw changes; `Snapshot.draw_exact`.
-/

namespace SoloDuel.Snapshot

variable {s t : Snapshot} {m n k : Nat}

theorem draw_leaves_iff (hs : s.board.Sound) :
    (∃ out, s.draw n = .ok out ∧ out.state = t) ↔ n ≤ s.count .deck ∧ s.drawn n = t := by
  rw [draw_eq hs]
  split_ifs with hshort
  · simp [Nat.not_le_of_lt hshort]
  · simp [Nat.le_of_not_lt hshort]

/-- **A draw comes to the same as two draws that share its cards.** -/
theorem draw_add_iff (hs : s.board.Sound) :
    (∃ out, s.draw (m + n) = .ok out ∧ out.state = t) ↔
      ∃ first, s.draw m = .ok first ∧
        ∃ second, first.state.draw n = .ok second ∧ second.state = t := by
  have hsecond := sound_drawn hs m
  rw [draw_leaves_iff hs, ← drawn_drawn]
  constructor
  · rintro ⟨hcount, hstate⟩
    obtain ⟨first, hdraw, hfirst⟩ := (draw_leaves_iff hs).mpr ⟨(by omega : m ≤ _), rfl⟩
    refine ⟨first, hdraw, ?_⟩
    rw [hfirst, draw_leaves_iff hsecond, count_deck_drawn]
    exact ⟨by omega, hstate⟩
  · rintro ⟨first, hdraw, hlater⟩
    obtain ⟨hm, hfirst⟩ := (draw_leaves_iff hs).mp ⟨first, hdraw, rfl⟩
    rw [← hfirst, draw_leaves_iff hsecond, count_deck_drawn] at hlater
    exact ⟨by omega, hlater.2⟩

/-- A draw has taken cards from the top of the deck. They are added to the hand in the order in
which they came off the deck, the topmost first, and are as they were there. Nothing else has
changed, and the draw is all that is reported. -/
structure Draws (s : Snapshot) (n : Nat) (out : Outcome) : Prop where
  deck : out.state.zone .deck = (s.zone .deck).rdrop n
  hand : out.state.zone .hand =
    s.zone .hand ++ ((s.zone .deck).rtake n).reverse.map fun c => { c with location := .hand }
  others : ∀ name, name ≠ .deck → name ≠ .hand → out.state.zone name = s.zone name
  rest : out.state = { s with board := out.state.board }
  events : out.events = [.cardsDrawn n]

theorem draws_of_draw (hs : s.board.Sound) {out : Outcome} (h : s.draw n = .ok out) :
    s.Draws n out := by
  rw [draw_eq hs] at h
  split_ifs at h
  cases h
  refine ⟨rfl, ?_, fun name hdeck hhand => Board.zone_dealt_of_ne hdeck hhand _ _, rfl, rfl⟩
  show s.zone .hand ++ _ = _
  congr 1
  refine List.map_congr_left fun c hc => ?_
  have hdeck : c ∈ s.zone .deck := List.mem_of_mem_drop (List.mem_reverse.mp hc)
  exact movedTo_of_mem hs hdeck rfl rfl .faceUp

/-- Drawing up to a number of cards in hand needs the missing ones in the deck, and ends with that
many cards in hand or with those that were there if they are more. -/
theorem exists_drawUntil_iff (hs : s.board.Sound) :
    (∃ out, s.drawUntil k = .ok out) ↔ k ≤ s.count .hand + s.count .deck := by
  rw [drawUntil, draw_eq hs]
  split_ifs with hshort
  · exact iff_of_false (fun ⟨out, h⟩ => nomatch h) (by omega)
  · exact iff_of_true ⟨_, rfl⟩ (by omega)

theorem count_hand_of_drawUntil (hs : s.board.Sound) {out : Outcome}
    (h : s.drawUntil k = .ok out) : out.state.count .hand = max k (s.count .hand) := by
  rw [drawUntil, draw_eq hs] at h
  split_ifs at h with hshort
  cases h
  rw [count_hand_drawn]
  omega

/-- **Drawing is exact.** On a snapshot that passes the check, a draw is refused exactly if the deck
has fewer cards than are to be drawn, and then before the first of them is; the cards are drawn one
at a time without another refusal. Otherwise exactly the cards on top of the deck go to the hand. So
a draw comes to the same as two draws that share its cards, and drawing up to a number of cards in
hand, if it is not refused, ends with that number or with what was in hand before. -/
theorem draw_exact (hcheck : s.check = .ok ()) :
    (∀ n refusal, s.draw n = .error refusal ↔
        s.count .deck < n ∧ refusal = .shortDraw n (s.count .deck)) ∧
      (∀ n, n ≤ s.count .deck → ∀ refusal, drawCards n s ≠ .error refusal) ∧
      (∀ n out, s.draw n = .ok out → s.Draws n out) ∧
      (∀ m n t, (∃ out, s.draw (m + n) = .ok out ∧ out.state = t) ↔
        ∃ first, s.draw m = .ok first ∧
          ∃ second, first.state.draw n = .ok second ∧ second.state = t) ∧
      (∀ k, (∃ out, s.drawUntil k = .ok out) ↔ k ≤ s.count .hand + s.count .deck) ∧
      ∀ k out, s.drawUntil k = .ok out → out.state.count .hand = max k (s.count .hand) := by
  have hs : s.board.Sound := Board.check_eq_ok_iff.mp hcheck
  refine ⟨fun n refusal => ?_, fun n hn refusal => ?_, fun n out => draws_of_draw hs,
    fun m n t => draw_add_iff hs, fun k => exists_drawUntil_iff hs,
    fun k out => count_hand_of_drawUntil hs⟩
  · rw [draw_eq hs]
    split_ifs with hshort
    · simp [hshort, @eq_comm _ refusal]
    · simp [hshort]
  · rw [drawCards_eq hs hn]
    exact nofun

/-- A card in the hand and three in the deck. -/
def threeInDeck : Snapshot :=
  let spell := CardData.spell ⟨1⟩ "Spell" .normal
  { Sequencer.cardless with
    board := {
      deck := [.new ⟨1⟩ spell .deck, .new ⟨2⟩ spell .deck, .new ⟨3⟩ spell .deck]
      hand := [.new ⟨4⟩ spell .hand] } }

/-- Two cards come to the hand, the top one first; four are too many. -/
theorem draw_threeInDeck : threeInDeck.check = .ok () ∧
    (∃ out, threeInDeck.draw 2 = .ok out ∧ (out.state.zone .hand).map (·.id) = [⟨4⟩, ⟨3⟩, ⟨2⟩] ∧
      (out.state.zone .deck).map (·.id) = [⟨1⟩]) ∧
    threeInDeck.draw 4 = .error (.shortDraw 4 3) := by
  have hcheck : threeInDeck.check = .ok () := rfl
  obtain ⟨hrefused, -, hdraws, -⟩ := draw_exact hcheck
  obtain ⟨out, hout⟩ : ∃ out, threeInDeck.draw 2 = .ok out := ⟨_, rfl⟩
  refine ⟨hcheck, ⟨out, hout, ?_, ?_⟩, (hrefused 4 _).mpr ⟨by decide, rfl⟩⟩
  · rw [(hdraws 2 out hout).hand]
    rfl
  · rw [(hdraws 2 out hout).deck]
    rfl

end SoloDuel.Snapshot
