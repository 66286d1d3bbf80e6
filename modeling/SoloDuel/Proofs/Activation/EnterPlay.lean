import SoloDuel.Activation.CardEffect
import SoloDuel.Proofs.Snapshot.Success
/-!
# Putting a card into play

What an activation that its template allows does first: it puts the source face-up into the zone of
the template and leaves the deck, the graveyard and the other cards in the hand alone.

* `Board.Retouched` — a board with counters and marks changed, but no card turned over or moved.
* `ActivationTemplate.of_validate`, `validate_eq_ok` — everything that the template checks.
* `Snapshot.InPlay`, `Snapshot.Entered` — the source in play; `enterPlay_spec`, `activate_spec` and
  `activate_spec_ignition` say that it gets there.
-/

namespace SoloDuel

/-! ## Counters and marks -/

namespace Board

variable {a b c : Board} {name : ZoneName} {id : InstanceId}

/-- Field states other than the faces may differ. -/
def Retouched (a b : Board) : Prop :=
  ∃ f : InstanceId → FieldState → FieldState,
    (∀ id state, (f id state).face = state.face) ∧ b = a.mapFields f

theorem retouched_mapFields {f : InstanceId → FieldState → FieldState}
    (hf : ∀ id state, (f id state).face = state.face) : Retouched a (a.mapFields f) :=
  ⟨f, hf, rfl⟩

theorem Retouched.refl (a : Board) : Retouched a a := by
  refine ⟨fun _ state => state, fun _ _ => rfl, ext_zone fun name => ?_⟩
  simp [CardInstance.mapField]

theorem Retouched.trans (h₁ : Retouched a b) (h₂ : Retouched b c) : Retouched a c := by
  obtain ⟨f, hf, rfl⟩ := h₁
  obtain ⟨g, hg, rfl⟩ := h₂
  exact ⟨_, fun id state => (hg id _).trans (hf id state), mapFields_mapFields a f g⟩

theorem retouched_only (id : InstanceId) {g : FieldState → FieldState}
    (hg : ∀ state, (g state).face = state.face) : Retouched a (a.mapFields (only id g)) := by
  refine retouched_mapFields fun other state => ?_
  unfold only
  split
  · exact hg state
  · rfl

theorem Retouched.sound (h : Retouched a b) (ha : a.Sound) : b.Sound := by
  obtain ⟨f, -, rfl⟩ := h
  exact ha.mapFields f

theorem Retouched.zone_eq (h : Retouched a b) (ha : a.Sound) (hname : name.isOnField = false) :
    b.zone name = a.zone name := by
  obtain ⟨f, -, rfl⟩ := h
  exact zone_mapFields_of_not_isOnField ha hname f

/-- A copy on a retouched board is in the same zone and lies the same way. -/
theorem Retouched.find? (h : Retouched a b) {card : CardInstance} (hfind : a.find? id = some card) :
    ∃ card', b.find? id = some card' ∧ card'.location = card.location ∧
      card'.isOnField = card.isOnField ∧ card'.isFaceUp = card.isFaceUp := by
  obtain ⟨f, hf, rfl⟩ := h
  refine ⟨card.mapField (f id), ?_, rfl, CardInstance.isOnField_mapField _ _,
    CardInstance.isFaceUp_mapField (hf id) card⟩
  rw [find?_mapFields, hfind, Option.map_some]

end Board

namespace Snapshot

variable {s t u : Snapshot} {id source : InstanceId} {zone : ZoneName} {card : CardInstance}

theorem retouched_modifyField (hs : s.board.Sound) (id : InstanceId) {g : FieldState → FieldState}
    (hg : ∀ state, (g state).face = state.face) :
    Board.Retouched s.board (s.modifyField id g).board := by
  rw [modifyField_eq hs.distinct]
  exact Board.retouched_only id hg

theorem counterOn_eq (h : s.find? id = some card) (hfield : card.isOnField = true)
    (kind : CounterKind) : s.counterOn id kind = .ok (card.counter kind) := by
  obtain ⟨state, hstate⟩ := Option.isSome_iff_exists.mp hfield
  simp [counterOn, h, CardInstance.counter, hstate]

/-- A card on the field can be given counters. -/
theorem addCounters_spec (hs : s.board.Sound) (h : s.find? id = some card)
    (hfield : card.isOnField = true) (kind : CounterKind) (amount : UInt32)
    (limit : Option UInt32) :
    ∃ t message, s.addCounters id kind amount limit = .ok { state := t, message := message } ∧
      Board.Retouched s.board t.board := by
  refine ⟨_, _, by rw [addCounters, counterOn_eq h hfield]; rfl, ?_⟩
  exact retouched_modifyField hs id fun _ => rfl

/-- A card on the field that has enough counters can lose them. -/
theorem removeCounters_spec (hs : s.board.Sound) (h : s.find? id = some card)
    (hfield : card.isOnField = true) {kind : CounterKind} {amount : UInt32}
    (hheld : ¬ card.counter kind < amount) :
    ∃ t message, s.removeCounters id kind amount = .ok { state := t, message := message } ∧
      Board.Retouched s.board t.board := by
  refine ⟨_, _, by
    rw [removeCounters, counterOn_eq h hfield]
    simp only [bind, Except.bind, if_neg hheld]
    rfl, ?_⟩
  exact retouched_modifyField hs id fun _ => rfl

/-! ## The source in play -/

/-- The source lies face-up in a zone on the field. -/
structure InPlay (source : InstanceId) (zone : ZoneName) (t : Snapshot) : Prop where
  sound : t.board.Sound
  onField : zone.isOnField = true
  card : ∃ c, t.find? source = some c ∧ c.location = zone ∧ c.isFaceUp = true

/-- Cards that leave another zone leave the source in play. -/
theorem InPlay.keeps (h : InPlay source zone s) {other : ZoneName} (hkeeps : Keeps other s t)
    (ht : t.board.Sound) (hother : other.isOnField = false) : InPlay source zone t := by
  obtain ⟨c, hfind, hlocation, hface⟩ := h.card
  have hne : c.location ≠ other := by
    rintro rfl
    rw [hlocation, h.onField] at hother
    cases hother
  exact ⟨ht, h.onField, c, hkeeps source c hfind hne, hlocation, hface⟩

theorem InPlay.retouched (h : InPlay source zone s) (ht : Board.Retouched s.board t.board) :
    InPlay source zone t := by
  obtain ⟨c, hfind, hlocation, hface⟩ := h.card
  obtain ⟨c', hfind', hlocation', -, hface'⟩ := ht.find? hfind
  exact ⟨ht.sound h.sound, h.onField, c', hfind', hlocation'.trans hlocation, hface'.trans hface⟩

theorem InPlay.holds (h : InPlay source zone t) : t.board.holds zone source = true := by
  obtain ⟨c, hfind, rfl, -⟩ := h.card
  obtain ⟨hid, hmem⟩ := mem_zone_of_find? h.sound hfind
  exact List.any_eq_true.mpr ⟨c, hmem, by simpa using hid⟩

/-- The source has come into play on a snapshot: off the field nothing else has changed. -/
structure Entered (s : Snapshot) (source : InstanceId) (zone : ZoneName) (t : Snapshot) : Prop
    extends InPlay source zone t where
  deck : t.zone .deck = s.zone .deck
  graveyard : t.zone .graveyard = s.zone .graveyard
  hand : t.zone .hand = (s.zone .hand).filter (·.id ≠ source)

theorem Entered.retouched (h : Entered s source zone t) (hu : Board.Retouched t.board u.board) :
    Entered s source zone u where
  toInPlay := h.toInPlay.retouched hu
  deck := (hu.zone_eq h.sound rfl).trans h.deck
  graveyard := (hu.zone_eq h.sound rfl).trans h.graveyard
  hand := (hu.zone_eq h.sound rfl).trans h.hand

end Snapshot

/-! ## What a template checks -/

namespace ActivationTemplate

open Snapshot

variable {t : ActivationTemplate} {s : Snapshot} {source : InstanceId} {card : CardInstance}
  {zone : ZoneName} {effect : EffectId} {once : OncePerTurn}

theorem isOnField_of_destination (h : t.destination = some zone) : zone.isOnField = true := by
  cases t <;> cases h <;> rfl

/-- **Everything that a template checks.** -/
theorem of_validate {book : RuleBook} (h : t.validate book s source effect once = .ok ()) :
    s.isTerminal = false ∧ ∃ card, s.find? source = some card ∧ t.checkPhase s card = .ok () ∧
      card.cardId = effect.card ∧ t.fits card.data = true ∧ t.checkLocation s card = .ok () ∧
      isUsedUp s source effect once = false ∧
      book.isActionPermitted s (t.action effect source) = true := by
  unfold validate at h
  split at h
  · cases h
  rename_i hterminal
  refine ⟨Bool.eq_false_iff.mpr hterminal, ?_⟩
  cases hfind : s.find? source with
  | none =>
    rw [hfind] at h
    cases h
  | some card =>
    rw [hfind] at h
    obtain ⟨⟨⟩, hphase, h⟩ := bind_eq_ok.mp h
    by_cases hcard : card.cardId ≠ effect.card ∨ ¬ t.fits card.data
    · simp only [if_pos hcard] at h
      cases h
    simp only [if_neg hcard] at h
    obtain ⟨⟨⟩, hlocation, h⟩ := bind_eq_ok.mp h
    by_cases hused : isUsedUp s source effect once
    · simp only [if_pos hused] at h
      cases h
    simp only [if_neg hused] at h
    by_cases hpermitted : book.isActionPermitted s (t.action effect source)
    · rw [not_or, not_not, not_not] at hcard
      exact ⟨card, rfl, hphase, hcard.1, hcard.2, hlocation, Bool.eq_false_iff.mpr hused,
        hpermitted⟩
    · simp only [if_pos hpermitted] at h
      cases h

/-- A template checks nothing else. -/
theorem validate_eq_ok {book : RuleBook} (hopen : s.isTerminal = false)
    (hfind : s.find? source = some card) (hphase : t.checkPhase s card = .ok ())
    (hcard : card.cardId = effect.card) (hfits : t.fits card.data = true)
    (hlocation : t.checkLocation s card = .ok ()) (hunused : isUsedUp s source effect once = false)
    (hpermitted : book.isActionPermitted s (t.action effect source) = true) :
    t.validate book s source effect once = .ok () := by
  simp [validate, hopen, hfind, hphase, hcard, hfits, hlocation, hunused, hpermitted, bind,
    Except.bind, pure, Except.pure]

/-- Where a card with a destination is activated from: the hand, with room in the destination, or
face-down in the destination. -/
theorem of_checkLocation (hzone : t.destination = some zone) (h : t.checkLocation s card = .ok ()) :
    (card.field = none ∧ card.location = .hand ∧ s.hasSpace zone = true) ∨
      (card.isOnField = true ∧ card.isFaceUp = false ∧ card.location = zone) := by
  unfold checkLocation at h
  rw [hzone] at h
  dsimp only at h
  cases hfield : card.field with
  | none =>
    simp only [hfield] at h
    split_ifs at h with hhand hroom
    exact .inl ⟨rfl, hhand.1, hroom⟩
  | some state =>
    simp only [hfield] at h
    split_ifs at h with hset hwait
    refine .inr ⟨by simp [CardInstance.isOnField, hfield], ?_, hset.1⟩
    simpa [CardInstance.isFaceUp, hfield] using hset.2

/-! ## The first step -/

/-- An ignition effect is activated from face-up on the field. -/
theorem of_checkLocation_ignition (h : ignition.checkLocation s card = .ok ()) :
    card.isOnField = true ∧ card.isFaceUp = true := by
  unfold checkLocation at h
  dsimp only [destination] at h
  split_ifs at h with hface
  exact hface

/-- A card from the hand is put face-up on the field. -/
theorem entered_moved (hs : s.board.Sound) (hfind : s.find? card.id = some card)
    (hhand : card.location = .hand) (hzone : zone.isOnField = true) :
    Entered s card.id zone (s.moved card zone .faceUp) := by
  have hmem : card ∈ s.board.zone .hand := hhand ▸ (mem_zone_of_find? hs hfind).2
  have hne : ∀ {other : ZoneName}, other.isOnField = false → other ≠ zone := by
    rintro other hother rfl
    rw [hzone] at hother
    cases hother
  refine ⟨⟨sound_moved hs hfind zone .faceUp, hzone, _, find?_moved hs hfind zone .faceUp, rfl, ?_⟩,
    ?_, ?_, ?_⟩
  · simp [CardInstance.isFaceUp, CardInstance.movedTo, hzone, Placement.faceUp, Placement.fresh,
      FieldState.isFaceUp]
  · exact Board.zone_relocated_of_ne hs.distinct hmem (by decide) (hne rfl)
  · exact Board.zone_relocated_of_ne hs.distinct hmem (by decide) (hne rfl)
  · exact (Board.zone_relocated s.board card zone .faceUp .hand).trans (if_neg (hne rfl))

/-- A card on the field is turned face-up. -/
theorem entered_flipped (hs : s.board.Sound) (hfind : s.find? card.id = some card)
    (hfield : card.isOnField = true) :
    Entered s card.id card.location (s.modifyField card.id fun f => { f with face := .up }) := by
  obtain ⟨-, hmem⟩ := mem_zone_of_find? hs hfind
  have honField : card.location.isOnField = true :=
    (hs.fielded card.location card hmem).symm.trans hfield
  obtain ⟨state, hstate⟩ := Option.isSome_iff_exists.mp hfield
  rw [modifyField_eq hs.distinct]
  have hzone : ∀ {other : ZoneName}, other.isOnField = false →
      (s.board.mapFields (Board.only card.id fun f => { f with face := .up })).zone other =
        s.board.zone other := fun hother => Board.zone_mapFields_of_not_isOnField hs hother _
  refine ⟨⟨hs.mapFields _, honField, card.mapField fun f => { f with face := .up }, ?_, rfl, ?_⟩,
    hzone rfl, hzone rfl, (hzone rfl).trans ?_⟩
  · rw [find?] at hfind ⊢
    rw [Board.find?_mapFields_only, if_pos rfl, hfind, Option.map_some]
  · simp [CardInstance.isFaceUp, CardInstance.mapField, hstate, FieldState.isFaceUp]
  · refine (Board.filter_zone_of_ne hs.distinct hmem ?_).symm
    rintro heq
    rw [← heq] at honField
    cases honField

/-- **A card that passes the check of its location gets into play.** -/
theorem enterPlay_spec (hs : s.board.Sound) (hfind : s.find? source = some card)
    (hzone : t.destination = some zone) (h : t.checkLocation s card = .ok ()) :
    ∃ u message, enterPlay t.destination s card = .ok { state := u, message := message } ∧
      Entered s source zone u := by
  have honField := isOnField_of_destination hzone
  obtain ⟨rfl, -⟩ := mem_zone_of_find? hs hfind
  rw [hzone]
  rcases of_checkLocation hzone h with ⟨hfield, hhand, hroom⟩ | ⟨hfield, hface, rfl⟩
  · have hoff : card.isOnField = false := by simp [CardInstance.isOnField, hfield]
    refine ⟨s.moved card zone .faceUp,
      some s!"{card.id} moved from the {card.location} to the {zone}", ?_,
      entered_moved hs hfind hhand honField⟩
    simp only [enterPlay, hoff, moveToField, honField, if_true, moveCard,
      relocate_eq hs hfind hroom]
    rfl
  · refine ⟨s.modifyField card.id fun f => { f with face := .up },
      some s!"{card.id} flipped face-up", ?_, entered_flipped hs hfind hfield⟩
    simp [enterPlay, hfield, hface, flipFaceUp, hfind]

theorem face_markActivated (effect : EffectId) (state : FieldState) :
    (state.markActivated effect).face = state.face := by
  unfold FieldState.markActivated
  split <;> rfl

theorem counter_markActivated (effect : EffectId) (kind : CounterKind) (c : CardInstance) :
    (c.mapField (·.markActivated effect)).counter kind = c.counter kind := by
  have hstate : ∀ state : FieldState, (state.markActivated effect).counter kind =
      state.counter kind := by
    intro state
    unfold FieldState.markActivated
    split <;> rfl
  cases hfield : c.field <;> simp [CardInstance.counter, CardInstance.mapField, hfield, hstate]

/-- Marking an effect as used changes the board at most by a mark on the source. -/
theorem board_mark (hs : s.board.Sound) (source : InstanceId) (effect : EffectId)
    (once : OncePerTurn) : (mark s source effect once).board = s.board ∨
      (mark s source effect once).board =
        s.board.mapFields (Board.only source (·.markActivated effect)) := by
  cases once with
  | unlimited => exact .inr (Board.modify_eq hs.distinct _ _)
  | card => exact .inl rfl
  | copy => exact .inr (board_markEffect hs.distinct source effect)

theorem retouched_mark (hs : s.board.Sound) (source : InstanceId) (effect : EffectId)
    (once : OncePerTurn) : Board.Retouched s.board (mark s source effect once).board := by
  rcases board_mark hs source effect once with h | h
  · rw [h]
    exact .refl s.board
  · rw [h]
    exact Board.retouched_only source (face_markActivated effect)

/-- A mark leaves the source its counters. -/
theorem find?_mark (hs : s.board.Sound) (hfind : s.find? source = some card) (effect : EffectId)
    (once : OncePerTurn) :
    ∃ c, (mark s source effect once).find? source = some c ∧ c.isOnField = card.isOnField ∧
      ∀ kind, c.counter kind = card.counter kind := by
  rcases board_mark hs source effect once with h | h
  · refine ⟨card, ?_, rfl, fun _ => rfl⟩
    rw [find?, h]
    exact hfind
  · refine ⟨card.mapField (·.markActivated effect), ?_, CardInstance.isOnField_mapField _ _,
      fun kind => counter_markActivated effect kind card⟩
    rw [find?] at hfind
    rw [find?, h, Board.find?_mapFields_only, if_pos rfl, hfind, Option.map_some]

/-- **The first step of an activation puts the source into play.** -/
theorem activate_spec (hs : s.board.Sound) (hfind : s.find? source = some card)
    (hzone : t.destination = some zone) (h : t.checkLocation s card = .ok ()) (name : String)
    (effect : EffectId) (once : OncePerTurn) :
    ∃ u message, (t.activate name source effect once).run s [] =
        .ok { state := u, message := message } ∧ Entered s source zone u := by
  obtain ⟨u, message, henter, hentered⟩ := enterPlay_spec hs hfind hzone h
  refine ⟨mark u source effect once, message, ?_,
    hentered.retouched (retouched_mark hentered.sound source effect once)⟩
  simp only [activate, hfind, henter]
  rfl

/-- **The first step of an ignition effect leaves the source where it is.** -/
theorem activate_spec_ignition (hs : s.board.Sound) (hfind : s.find? source = some card)
    (h : ignition.checkLocation s card = .ok ()) (name : String) (effect : EffectId)
    (once : OncePerTurn) :
    (ignition.activate name source effect once).run s [] =
        .ok { state := mark s source effect once } ∧
      InPlay source card.location (mark s source effect once) := by
  obtain ⟨hfield, hface⟩ := of_checkLocation_ignition h
  obtain ⟨-, hmem⟩ := mem_zone_of_find? hs hfind
  have hin : InPlay source card.location s :=
    ⟨hs, (hs.fielded card.location card hmem).symm.trans hfield, card, hfind, rfl, hface⟩
  refine ⟨?_, hin.retouched (retouched_mark hs source effect once)⟩
  simp [activate, hfind, destination, enterPlay, hfield, hface, bind, Except.bind, pure,
    Except.pure]

end ActivationTemplate

/-- The steps that put a source on the board into play. -/
theorem CardEffect.activationSteps_eq (e : CardEffect) {s : Snapshot} {source : InstanceId}
    {card : CardInstance} (hfind : s.find? source = some card) :
    e.activationSteps s source =
      [e.template.activate card.name source e.id e.once,
        .notify "notify" s!"{card.name} is activated",
        e.template.announce card.name source e.id] := by
  obtain ⟨hid, -⟩ := Board.mem_zone_of_find? hfind
  rw [activationSteps, hfind]
  simp only [ActivationTemplate.steps, hid]

/-- All steps of an activation by a source on the board. -/
theorem CardEffect.steps_eq (e : CardEffect) {s : Snapshot} {source : InstanceId}
    {card : CardInstance} (hfind : s.find? source = some card) :
    e.steps s source =
      e.template.activate card.name source e.id e.once ::
        Step.notify "notify" s!"{card.name} is activated" ::
        e.template.announce card.name source e.id :: e.resolutionSteps s source := by
  rw [steps, e.activationSteps_eq hfind]
  rfl

end SoloDuel
