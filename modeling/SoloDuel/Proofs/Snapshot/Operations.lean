import SoloDuel.Play.Command
import SoloDuel.Proofs.Snapshot.Change
/-!
# Operations are elementary changes

Every operation that is not refused comes down to elementary changes of cards and life. Those that
take cards off the field or count counters leave the rest of the field alone.

* `bind_eq_ok`, `foldlM_induction` — what a sequence and a fold that succeed are made of.
* `spares_of_draw` and the like — the operations that bring nothing onto the field.
* `handles_of_operation` — all operations.
* `events_of_draw` and the like — what they report.
-/

namespace SoloDuel

/-- A sequence succeeds exactly when both parts do. -/
theorem bind_eq_ok {ε α β : Type} {x : Except ε α} {f : α → Except ε β} {b : β} :
    (x >>= f) = .ok b ↔ ∃ a, x = .ok a ∧ f a = .ok b := by
  cases x with
  | error fault =>
    constructor
    · intro h
      cases h
    · rintro ⟨a, h, -⟩
      cases h
  | ok a =>
    constructor
    · exact fun h => ⟨a, rfl, h⟩
    · rintro ⟨a', h, hf⟩
      cases h
      exact hf

/-- What one step keeps from a start on, a fold that succeeds keeps. -/
theorem foldlM_induction {ε σ α : Type} {f : σ → α → Except ε σ} {P : σ → Prop}
    (hstep : ∀ s a t, P s → f s a = .ok t → P t) {as : List α} {s t : σ} (hs : P s)
    (h : as.foldlM f s = .ok t) : P t := by
  induction as generalizing s with
  | nil =>
    cases h
    exact hs
  | cons a rest ih =>
    rw [List.foldlM_cons, bind_eq_ok] at h
    obtain ⟨u, hu, hrest⟩ := h
    exact ih (hstep s a u hs hu) hrest

namespace Snapshot

variable {s t : Snapshot} {out : Outcome} {id : InstanceId}

/-! ## Off the field -/

section Spares

variable (touched : InstanceId → Prop)

theorem away_of_requireIn {zone : ZoneName} (h : s.requireIn id zone = .ok ())
    (hzone : zone.isOnField = false) : s.Away id := by
  intro _ card hfind
  unfold requireIn location? at h
  rw [hfind, Option.map_some] at h
  dsimp only at h
  split at h
  · rename_i hlocation
    rw [hlocation]
    exact hzone
  · cases h

theorem spares_of_moveCard {target : ZoneName} {placement : Placement}
    (htarget : target.isOnField = false) (hid : touched id ∨ s.Away id)
    (h : s.moveCard id target placement = .ok out) : Spares touched s out.state := by
  obtain ⟨⟨origin, next⟩, hmove, hout⟩ := bind_eq_ok.mp h
  cases hout
  exact (Sparing.withdrawn hmove htarget hid).spares

theorem spares_of_sendToGraveyard (hid : touched id) (h : s.sendToGraveyard id = .ok out) :
    Spares touched s out.state :=
  spares_of_moveCard touched rfl (.inl hid) h

/-- The card on top of the deck is not on the field. -/
theorem away_of_top? {card : CardInstance} (h : s.board.top? .deck = some card) :
    s.Away card.id := by
  intro hs c hfind
  have hcard : card ∈ s.board.zone .deck := List.mem_of_getLast? h
  have hc : s.find? card.id = some card := Board.find?_of_mem hs.distinct hcard
  rw [hc] at hfind
  cases hfind
  rw [hs.placed .deck card hcard]
  rfl

theorem spares_of_drawCards {n : Nat} (h : drawCards n s = .ok t) : Spares touched s t := by
  induction n generalizing s with
  | zero =>
    cases h
    exact .refl
  | succ n ih =>
    rw [drawCards] at h
    split at h
    · cases h
    · rename_i card htop
      obtain ⟨⟨origin, next⟩, hmove, hrest⟩ := bind_eq_ok.mp h
      have hfirst : Spares touched s next :=
        (Sparing.withdrawn hmove rfl (.inr (away_of_top? htop))).spares
      exact hfirst.trans (ih hrest)

theorem spares_of_draw {n : Nat} (h : s.draw n = .ok out) : Spares touched s out.state := by
  rw [draw] at h
  split at h
  · cases h
  · obtain ⟨next, hdraw, hout⟩ := bind_eq_ok.mp h
    cases hout
    exact spares_of_drawCards touched hdraw

theorem spares_of_discardOne (h : s.discardOne id = .ok t) : Spares touched s t := by
  obtain ⟨⟨⟩, hrequire, hrest⟩ := bind_eq_ok.mp h
  obtain ⟨⟨origin, next⟩, hmove, hout⟩ := bind_eq_ok.mp hrest
  cases hout
  exact (Sparing.withdrawn hmove rfl (.inr (away_of_requireIn hrequire rfl))).spares

theorem spares_of_discard {ids : List InstanceId} (h : s.discard ids = .ok out) :
    Spares touched s out.state := by
  obtain ⟨next, hfold, hout⟩ := bind_eq_ok.mp h
  cases hout
  exact foldlM_induction (P := Spares touched s)
    (fun _ _ _ ht hu => ht.trans (spares_of_discardOne touched hu)) .refl hfold

theorem spares_of_search (h : s.search id = .ok out) : Spares touched s out.state := by
  obtain ⟨⟨⟩, hrequire, hrest⟩ := bind_eq_ok.mp h
  obtain ⟨⟨origin, next⟩, hmove, hout⟩ := bind_eq_ok.mp hrest
  cases hout
  have hmoved : Spares touched s next :=
    (Sparing.withdrawn hmove rfl (.inr (away_of_requireIn hrequire rfl))).spares
  exact hmoved.tail (.shuffled next)

/-- From a zone on the field a card is added to the hand only if it may be touched. -/
theorem spares_of_addToHand {origin : ZoneName} (hid : origin.isOnField = true → touched id)
    (h : s.addToHand id origin = .ok out) : Spares touched s out.state := by
  rw [addToHand] at h
  split at h
  · exact spares_of_search touched h
  · obtain ⟨⟨⟩, hrequire, hrest⟩ := bind_eq_ok.mp h
    obtain ⟨⟨recorded, next⟩, hmove, hout⟩ := bind_eq_ok.mp hrest
    cases hout
    refine (Sparing.withdrawn hmove rfl ?_).spares
    cases horigin : origin.isOnField with
    | true => exact .inl (hid horigin)
    | false => exact .inr (away_of_requireIn hrequire horigin)

theorem spares_of_addCounters {kind : CounterKind} {amount : UInt32} {limit : Option UInt32}
    (hid : touched id) (h : s.addCounters id kind amount limit = .ok out) :
    Spares touched s out.state := by
  obtain ⟨held, -, hout⟩ := bind_eq_ok.mp h
  cases hout
  exact (Sparing.counted s kind _ hid).spares

theorem spares_of_removeCounters {kind : CounterKind} {amount : UInt32} (hid : touched id)
    (h : s.removeCounters id kind amount = .ok out) : Spares touched s out.state := by
  obtain ⟨held, -, hrest⟩ := bind_eq_ok.mp h
  split at hrest
  · cases hrest
  · cases hrest
    exact (Sparing.counted s kind _ hid).spares

end Spares

/-! ## The field -/

theorem handles_of_moveCard {target : ZoneName} {placement : Placement}
    (h : s.moveCard id target placement = .ok out) : Handles s out.state := by
  obtain ⟨⟨origin, next⟩, hmove, hout⟩ := bind_eq_ok.mp h
  cases hout
  exact (Handling.relocated hmove).handles

theorem handles_of_moveToField {target : ZoneName} {placement : Placement}
    (h : s.moveToField id target placement = .ok out) : Handles s out.state := by
  rw [moveToField] at h
  split at h
  · exact handles_of_moveCard h
  · cases h

theorem handles_of_setCard {target : ZoneName} {placement : Placement}
    (h : s.setCard id target placement = .ok out) : Handles s out.state := by
  obtain ⟨moved, hmove, hout⟩ := bind_eq_ok.mp h
  cases hout
  exact (handles_of_moveToField hmove).tail (.fielded _ id _)

theorem handles_of_flipFaceUp (h : s.flipFaceUp id = .ok out) : Handles s out.state := by
  rw [flipFaceUp] at h
  split at h
  · cases h
  · split at h
    · cases h
      exact (Handling.fielded s id _).handles
    · cases h

theorem handles_of_setCounters {kind : CounterKind} {count : UInt32} {limit : Option UInt32}
    (h : s.setCounters id kind count limit = .ok out) : Handles s out.state := by
  obtain ⟨held, -, hout⟩ := bind_eq_ok.mp h
  cases hout
  exact (Handling.fielded s id _).handles

/-- **An operation that is not refused comes down to elementary changes.** -/
theorem handles_of_operation {o : Operation} (h : o.perform s = .ok out) : Handles s out.state := by
  cases o with
  | moveCard | sendToGraveyard | banish => exact handles_of_moveCard h
  | draw | drawUntil => exact (spares_of_draw (fun _ => True) h).handles
  | discard => exact (spares_of_discard (fun _ => True) h).handles
  | search => exact (spares_of_search (fun _ => True) h).handles
  | addToHand => exact (spares_of_addToHand (fun _ => True) (fun _ => trivial) h).handles
  | moveToField => exact handles_of_moveToField h
  | setCard => exact handles_of_setCard h
  | flipFaceUp => exact handles_of_flipFaceUp h
  | shuffleDeck =>
    cases h
    exact (Handling.shuffled s).handles
  | addCounters => exact (spares_of_addCounters (fun _ => True) trivial h).handles
  | removeCounters => exact (spares_of_removeCounters (fun _ => True) trivial h).handles
  | setCounters => exact handles_of_setCounters h
  | gainLife | loseLife =>
    cases h
    exact (Handling.life s _).handles

/-! ## What is reported -/

theorem events_of_moveCard {target : ZoneName} {placement : Placement}
    (h : s.moveCard id target placement = .ok out) : out.events = [] := by
  obtain ⟨moved, -, hout⟩ := bind_eq_ok.mp h
  cases hout
  rfl

theorem events_of_moveToField {target : ZoneName} {placement : Placement}
    (h : s.moveToField id target placement = .ok out) : out.events = [] := by
  rw [moveToField] at h
  split at h
  · exact events_of_moveCard h
  · cases h

theorem events_of_setCard {target : ZoneName} {placement : Placement}
    (h : s.setCard id target placement = .ok out) : out.events = [] := by
  obtain ⟨moved, hmove, hout⟩ := bind_eq_ok.mp h
  cases hout
  have hevents : moved.events = [] := events_of_moveToField hmove
  exact hevents

theorem events_of_flipFaceUp (h : s.flipFaceUp id = .ok out) : out.events = [] := by
  rw [flipFaceUp] at h
  split at h
  · cases h
  · split at h
    · cases h
      rfl
    · cases h

theorem events_of_draw {n : Nat} (h : s.draw n = .ok out) : out.events = [.cardsDrawn n] := by
  rw [draw] at h
  split at h
  · cases h
  · obtain ⟨next, -, hout⟩ := bind_eq_ok.mp h
    cases hout
    rfl

theorem events_of_discard {ids : List InstanceId} (h : s.discard ids = .ok out) :
    out.events = [] := by
  obtain ⟨next, -, hout⟩ := bind_eq_ok.mp h
  cases hout
  rfl

theorem events_of_search (h : s.search id = .ok out) : out.events = [] := by
  obtain ⟨⟨⟩, -, hrest⟩ := bind_eq_ok.mp h
  obtain ⟨moved, -, hout⟩ := bind_eq_ok.mp hrest
  cases hout
  rfl

theorem events_of_addToHand {origin : ZoneName} (h : s.addToHand id origin = .ok out) :
    out.events = [] := by
  rw [addToHand] at h
  split at h
  · exact events_of_search h
  · obtain ⟨⟨⟩, -, hrest⟩ := bind_eq_ok.mp h
    obtain ⟨moved, -, hout⟩ := bind_eq_ok.mp hrest
    cases hout
    rfl

theorem events_of_addCounters {kind : CounterKind} {amount : UInt32} {limit : Option UInt32}
    (h : s.addCounters id kind amount limit = .ok out) : out.events = [] := by
  obtain ⟨held, -, hout⟩ := bind_eq_ok.mp h
  cases hout
  rfl

theorem events_of_removeCounters {kind : CounterKind} {amount : UInt32}
    (h : s.removeCounters id kind amount = .ok out) : out.events = [] := by
  obtain ⟨held, -, hrest⟩ := bind_eq_ok.mp h
  split at hrest
  · cases hrest
  · cases hrest
    rfl

theorem events_of_setCounters {kind : CounterKind} {count : UInt32} {limit : Option UInt32}
    (h : s.setCounters id kind count limit = .ok out) : out.events = [] := by
  obtain ⟨held, -, hout⟩ := bind_eq_ok.mp h
  cases hout
  rfl

end Snapshot

end SoloDuel
