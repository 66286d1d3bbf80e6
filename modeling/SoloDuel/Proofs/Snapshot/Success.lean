import SoloDuel.Operation.Counter
import SoloDuel.Proofs.Board.Dealing
import SoloDuel.Proofs.Snapshot.Operations
/-!
# When operations succeed

On a sound board, what an operation needs to succeed, and which cards it leaves alone.

* `Snapshot.Keeps` — the copies outside a zone stay where and as they are.
* `moveCard_eq` — a move of one copy to any zone.
* `Snapshot.drawn`, `drawCards_eq`, `draw_eq` — a draw deals the cards.
* `draw_spec`, `sendToGraveyard_spec` — what these operations leave behind.
-/

namespace SoloDuel.Snapshot

variable {s t u : Snapshot} {id : InstanceId} {card : CardInstance} {zone target : ZoneName}
  {placement : Placement} {n : Nat}

/-- The copies outside a zone stay where and as they are. -/
def Keeps (zone : ZoneName) (s t : Snapshot) : Prop :=
  ∀ id card, s.find? id = some card → card.location ≠ zone → t.find? id = some card

theorem Keeps.refl (zone : ZoneName) (s : Snapshot) : Keeps zone s s := fun _ _ h _ => h

theorem Keeps.trans (h₁ : Keeps zone s t) (h₂ : Keeps zone t u) : Keeps zone s u :=
  fun id card hfind hne => h₂ id card (h₁ id card hfind hne) hne

/-- The snapshot with a copy moved on top of a zone. -/
def moved (s : Snapshot) (card : CardInstance) (target : ZoneName) (placement : Placement) :
    Snapshot :=
  { s with board := s.board.relocated card target placement }

/-- On a sound board a copy that is found is in the zone it records. -/
theorem mem_zone_of_find? (hs : s.board.Sound) (h : s.find? id = some card) :
    card.id = id ∧ card ∈ s.zone card.location := by
  obtain ⟨hid, name, hcard⟩ := Board.mem_zone_of_find? h
  have hname := hs.placed name card hcard
  exact ⟨hid, hname ▸ hcard⟩

theorem find?_of_mem (hs : s.board.Sound) (h : card ∈ s.zone zone) :
    s.find? card.id = some card := Board.find?_of_mem hs.distinct h

theorem location?_eq_none_iff :
    s.location? id = none ↔ ∀ name, s.board.holds name id = false := by
  rw [location?, Option.map_eq_none_iff]
  exact Board.find?_eq_none_iff_holds

/-- On a sound board a copy records the zone that holds it. -/
theorem location?_eq_some_iff (hs : s.board.Sound) :
    s.location? id = some zone ↔ s.board.holds zone id = true := by
  rw [location?, Option.map_eq_some_iff, Board.holds_eq_true_iff]
  constructor
  · rintro ⟨card, hfind, rfl⟩
    obtain ⟨hid, hcard⟩ := mem_zone_of_find? hs hfind
    exact ⟨card, hcard, hid⟩
  · rintro ⟨card, hcard, rfl⟩
    exact ⟨card, find?_of_mem hs hcard, hs.placed zone card hcard⟩

theorem location?_of_mem (hs : s.board.Sound) (h : card ∈ s.zone zone) :
    s.location? card.id = some zone := by
  rw [location?, find?_of_mem hs h, Option.map_some, hs.placed zone card h]

/-- Between zones off the field a copy has no field state to lose. -/
theorem movedTo_of_mem (hs : s.board.Sound) (hcard : card ∈ s.zone zone)
    (hzone : zone.isOnField = false) (htarget : target.isOnField = false)
    (placement : Placement) : card.movedTo target placement = { card with location := target } := by
  have hoff : card.isOnField = false := (hs.fielded zone card hcard).trans hzone
  cases card
  simp_all [CardInstance.isOnField, CardInstance.movedTo]

theorem sound_moved (hs : s.board.Sound) (h : s.find? id = some card) (target : ZoneName)
    (placement : Placement) : (s.moved card target placement).board.Sound :=
  hs.relocated (mem_zone_of_find? hs h).2 target placement

/-- Moving a copy off a zone leaves the copies outside of it alone. -/
theorem keeps_moved (hs : s.board.Sound) (h : s.find? id = some card) (target : ZoneName)
    (placement : Placement) : Keeps card.location s (s.moved card target placement) := by
  intro other c hother hne
  obtain ⟨rfl, hcard⟩ := mem_zone_of_find? hs h
  have hid : other ≠ card.id := by
    rintro rfl
    rw [h] at hother
    cases hother
    exact hne rfl
  rw [find?, moved, Board.find?_relocated hs.distinct hcard, if_neg hid]
  exact hother

theorem find?_moved (hs : s.board.Sound) (h : s.find? id = some card) (target : ZoneName)
    (placement : Placement) :
    (s.moved card target placement).find? id = some (card.movedTo target placement) := by
  obtain ⟨rfl, hcard⟩ := mem_zone_of_find? hs h
  rw [find?, moved, Board.find?_relocated hs.distinct hcard, if_pos rfl]

/-- A copy can be moved to a zone without a limit. -/
theorem relocate_eq (hs : s.board.Sound) (h : s.find? id = some card)
    (htarget : s.hasSpace target = true) :
    s.relocate id target placement = .ok (card.location, s.moved card target placement) :=
  (relocate_eq_ok_iff hs.distinct).mpr ⟨card, h, rfl, .inr htarget, rfl⟩

/-- **A copy that is found can be moved within its zone and to any zone with room.** -/
theorem moveCard_eq (hs : s.board.Sound) (h : s.find? id = some card) (target : ZoneName)
    (placement : Placement) :
    s.moveCard id target placement =
      if card.location = target ∨ s.hasSpace target = true then
        .ok
          { state := s.moved card target placement
            message := s!"{id} moved from the {card.location} to the {target}" }
      else .error (.full target) := by
  rw [moveCard]
  split_ifs with hroom
  · rw [(relocate_eq_ok_iff hs.distinct).mpr ⟨card, h, rfl, hroom, rfl⟩]
    rfl
  · rw [not_or] at hroom
    have hfull : s.relocate id target placement = .error (.full target) := by
      simp [relocate, location?, h, hroom]
    rw [hfull]
    rfl

/-! ## Off the deck -/

/-- The snapshot with cards gone from the top of the deck to the hand. -/
def drawn (s : Snapshot) (n : Nat) : Snapshot := { s with board := s.board.dealt n }

theorem sound_drawn (hs : s.board.Sound) (n : Nat) : (s.drawn n).board.Sound := hs.dealt n

theorem drawn_drawn (s : Snapshot) (m n : Nat) : (s.drawn m).drawn n = s.drawn (m + n) := by
  simp [drawn, Board.dealt_dealt]

@[simp] theorem count_deck_drawn (s : Snapshot) (n : Nat) :
    (s.drawn n).count .deck = s.count .deck - n := s.board.count_deck_dealt n

theorem count_hand_drawn (s : Snapshot) (n : Nat) :
    (s.drawn n).count .hand = s.count .hand + min n (s.count .deck) := s.board.count_hand_dealt n

/-- Drawing leaves the copies outside the deck alone. -/
theorem keeps_drawn (hs : s.board.Sound) (n : Nat) : Keeps .deck s (s.drawn n) := by
  have hkept : (s.board.dealt n).Sound ∧ Keeps .deck s (s.drawn n) := by
    refine Board.dealt_induction
      (motive := fun b => b.Sound ∧ Keeps .deck s { s with board := b }) hs.distinct
      ⟨hs, .refl _ s⟩ (fun b card _ hcard hb => ?_) n
    let u : Snapshot := { s with board := b }
    have hmoved : Keeps card.location u (u.moved card .hand .faceUp) :=
      keeps_moved hb.1 (find?_of_mem hb.1 hcard) .hand .faceUp
    rw [hb.1.placed .deck card hcard] at hmoved
    exact ⟨hb.1.relocated hcard .hand .faceUp, hb.2.trans hmoved⟩
  exact hkept.2

/-- **Cards are drawn one at a time, and none of them is missed.** -/
theorem drawCards_eq (hs : s.board.Sound) (hn : n ≤ s.count .deck) :
    drawCards n s = .ok (s.drawn n) := by
  induction n generalizing s with
  | zero => simp [drawCards, drawn]
  | succ n ih =>
    cases htop : s.board.top? .deck with
    | none =>
      have hempty : s.zone .deck = [] := List.getLast?_eq_none_iff.mp htop
      have hcount : s.count .deck = 0 := congrArg List.length hempty
      omega
    | some card =>
      have hcard : card ∈ s.zone .deck := List.mem_of_getLast? htop
      have hmove : s.relocate card.id .hand .faceUp = .ok (card.location, s.drawn 1) := by
        rw [relocate_eq hs (find?_of_mem hs hcard) rfl, moved,
          Board.relocated_top hs.distinct htop]
        rfl
      have hrest : drawCards n (s.drawn 1) = .ok ((s.drawn 1).drawn n) :=
        ih (sound_drawn hs 1) (by rw [count_deck_drawn]; omega)
      rw [drawn_drawn, Nat.add_comm] at hrest
      simp only [drawCards, htop, hmove]
      exact hrest

/-- **A draw takes its cards from the top of the deck, which has to have enough of them.** -/
theorem draw_eq (hs : s.board.Sound) (n : Nat) :
    s.draw n =
      if s.count .deck < n then .error (.shortDraw n (s.count .deck))
      else
        .ok
          { state := s.drawn n
            message := s!"drew {n} card(s)"
            events := [.cardsDrawn n] } := by
  rw [draw]
  split_ifs with hshort
  · rfl
  · rw [drawCards_eq hs (Nat.le_of_not_lt hshort)]
    rfl

/-- With enough cards in the deck a draw succeeds. -/
theorem draw_spec (hs : s.board.Sound) (hn : n ≤ s.count .deck) :
    ∃ t message, s.draw n = .ok { state := t, message := message, events := [.cardsDrawn n] } ∧
      t.board.Sound ∧ Keeps .deck s t ∧ t.count .hand = s.count .hand + n := by
  have hhand : (s.drawn n).count .hand = s.count .hand + n := by
    rw [count_hand_drawn, Nat.min_eq_left hn]
  refine ⟨s.drawn n, some s!"drew {n} card(s)", ?_, sound_drawn hs n, keeps_drawn hs n, hhand⟩
  rw [draw_eq hs, if_neg (Nat.not_lt_of_le hn)]

/-- A copy in a zone satisfies the requirement that it is there. -/
theorem requireIn_eq (h : s.find? id = some card) (hzone : card.location = zone) :
    s.requireIn id zone = .ok () := by
  simp [requireIn, location?, h, hzone]

theorem shuffle_find? (hs : s.board.Sound) (id : InstanceId) : s.shuffle.find? id = s.find? id :=
  Board.find?_of_perm hs.distinct (s.board.shuffleDeck_perm _) id

theorem sound_shuffle (hs : s.board.Sound) : s.shuffle.board.Sound :=
  hs.of_perm (s.board.shuffleDeck_perm _)

/-! ## To the graveyard -/

theorem discardOne_spec (hs : s.board.Sound) (h : s.find? id = some card)
    (hzone : card.location = .hand) :
    s.discardOne id = .ok (s.moved card .graveyard .faceUp) := by
  rw [discardOne, requireIn_eq h hzone, relocate_eq hs h rfl]
  rfl

/-- Any copy can be sent to the graveyard. -/
theorem sendToGraveyard_spec (hs : s.board.Sound) (h : s.find? id = some card) :
    ∃ t message, s.sendToGraveyard id = .ok { state := t, message := message } ∧
      t.board.Sound ∧ t.board.holds .graveyard id = true := by
  refine ⟨s.moved card .graveyard .faceUp,
    some s!"{id} moved from the {card.location} to the {ZoneName.graveyard}", ?_,
    sound_moved hs h .graveyard .faceUp, ?_⟩
  · rw [sendToGraveyard, moveCard_eq hs h, if_pos (.inr rfl)]
  · obtain ⟨hid, hmem⟩ := mem_zone_of_find? (sound_moved hs h .graveyard .faceUp)
      (find?_moved hs h .graveyard .faceUp)
    exact List.any_eq_true.mpr ⟨_, hmem, by simpa using hid⟩

end SoloDuel.Snapshot
