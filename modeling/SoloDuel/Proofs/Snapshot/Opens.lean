import SoloDuel.Proofs.Snapshot.Opening
/-!
# The opening in full

The opening checks the size of the deck before it looks anything up, and the whole board after the
hand is dealt. The last check never fails: the copies are numbered one by one and each goes into
the zone it records.

* `Snapshot.Opens` — the state a duel opens with; `opens_opened`.
* `opening_eq_error_iff`, `exists_opening_iff` — which openings are refused, and why.
* `Snapshot.opening_exact` — all of this together.
-/

namespace SoloDuel.Snapshot

open Board

variable {config : DuelConfig} {lookup : CardId → Except RegistryFault CardData}
  {deck : List CardId} {species : List CardData}

/-- A duel has opened. The copy of an entry of the deck list is numbered by the place of the entry,
from 1, and is of its species. The last cards of the deck are in the hand, the topmost at the
bottom, and the others in the deck; they are as new. Nothing else has happened. -/
structure Opens (config : DuelConfig) (lookup : CardId → Except RegistryFault CardData)
    (deck : List CardId) (s : Snapshot) : Prop where
  checked : s.check = .ok ()
  listed : ∀ i (hi : i < deck.length), ∃ card, s.find? (entryId i) = some card ∧
    lookup deck[i] = .ok card.data
  left : (s.zone .deck).map (·.id) =
    (config.deckOrder ((List.range deck.length).map entryId)).1.rdrop config.openingHand.toNat
  dealt : (s.zone .hand).map (·.id) =
    ((config.deckOrder ((List.range deck.length).map entryId)).1.rtake
      config.openingHand.toNat).reverse
  others : ∀ name, name ≠ .deck → name ≠ .hand → s.zone name = []
  fresh : ∀ name, ∀ card ∈ s.zone name, card = .new card.id card.data name
  rest : s =
    { config := config
      board := s.board
      life := .both config.startingLife
      phase := .draw
      turn := 1
      chain := []
      result := .ongoing
      normalSummonsLeft := config.normalSummonsPerTurn
      usedCards := []
      usedEffects := []
      rng := (config.deckOrder ((List.range deck.length).map entryId)).2.state }

/-- The numbers of the copies are shuffled as the copies are. -/
theorem deckOrder_entryIds (config : DuelConfig) (species : List CardData) :
    config.deckOrder ((List.range species.length).map entryId) =
      ((config.deckOrder (copies species)).1.map (·.id),
        (config.deckOrder (copies species)).2) := by
  rw [← map_id_copies, DuelConfig.deckOrder_map]

theorem eq_new_of_mem_opened {name : ZoneName} {card : CardInstance}
    (h : card ∈ (opened config species).zone name) : card = .new card.id card.data name := by
  have hcopy : ∀ c ∈ (config.deckOrder (copies species)).1, c = .new c.id c.data .deck :=
    fun c hc => eq_new_of_mem_copies ((config.deckOrder_perm _).mem_iff.mp hc)
  by_cases hdeck : name = .deck
  · subst hdeck
    exact hcopy card (List.mem_of_mem_take h)
  by_cases hhand : name = .hand
  · subst hhand
    obtain ⟨c, hc, rfl⟩ := List.mem_map.mp h
    rw [hcopy c (List.mem_of_mem_drop (List.mem_reverse.mp hc))]
    rfl
  · rw [zone_opened_of_ne hdeck hhand] at h
    cases h

theorem opens_opened (hlength : deck.length + 1 < UInt32.size)
    (h : List.Forall₂ (fun card data => lookup card = .ok data) deck species) :
    Opens config lookup deck (opened config species) := by
  have hspecies : species.length + 1 < UInt32.size := h.length_eq ▸ hlength
  have hsound := sound_opened config hspecies
  have horder := deckOrder_entryIds config species
  rw [← h.length_eq] at horder
  refine ⟨check_eq_ok_iff.mpr hsound, fun i hi => ?_, ?_, ?_, fun name hdeck hhand => ?_,
    fun name card => eq_new_of_mem_opened, ?_⟩
  · have hi' : i < species.length := h.length_eq ▸ hi
    obtain ⟨card, hfind, hdata⟩ :=
      find?_of_roster_perm hsound.distinct (roster_opened config hspecies) hi'
    exact ⟨card, hfind, hdata ▸ h.get hi hi'⟩
  · rw [horder]
    rw [zone_deck_opened, List.rdrop, List.map_take, List.rdrop, List.length_map]
  · rw [horder, zone_hand_opened, List.map_map, List.map_reverse, List.rtake, List.map_drop,
      List.rtake, List.length_map]
    rfl
  · exact zone_opened_of_ne hdeck hhand config species
  · rw [horder]
    rfl

theorem opening_eq_error_iff (hlength : deck.length + 1 < UInt32.size) {fault : EngineFault} :
    opening config lookup deck = .error fault ↔
      (deck.length < config.openingHand.toNat ∧
        fault = .config (.shortDeck deck.length config.openingHand.toNat)) ∨
      (config.openingHand.toNat ≤ deck.length ∧
        ∃ cause, FirstRefused lookup deck cause ∧ fault = .registry cause) := by
  constructor
  · intro h
    by_cases hhand : deck.length < config.openingHand.toNat
    · rw [opening_shortDeck hhand] at h
      cases h
      exact .inl ⟨hhand, rfl⟩
    rw [not_lt] at hhand
    obtain ⟨species, hspecies⟩ | ⟨cause, hcause⟩ := exists_found_or_firstRefused lookup deck
    · rw [opening_eq_ok hhand hlength hspecies] at h
      cases h
    · rw [opening_refused hhand hlength hcause] at h
      cases h
      exact .inr ⟨hhand, cause, hcause, rfl⟩
  · rintro (⟨hhand, rfl⟩ | ⟨hhand, cause, hcause, rfl⟩)
    · exact opening_shortDeck hhand
    · exact opening_refused hhand hlength hcause

theorem exists_opening_iff (hlength : deck.length + 1 < UInt32.size) :
    (∃ s, opening config lookup deck = .ok s) ↔
      config.openingHand.toNat ≤ deck.length ∧ ∀ card ∈ deck, ∃ data, lookup card = .ok data := by
  constructor
  · rintro ⟨s, h⟩
    obtain ⟨-, -, species, hspecies, -⟩ := exists_of_opening h
    refine ⟨?_, fun card hcard => ?_⟩
    · by_contra hhand
      rw [opening_shortDeck (not_le.mp hhand)] at h
      cases h
    · obtain ⟨i, hi, rfl⟩ := List.mem_iff_getElem.mp hcard
      exact ⟨_, hspecies.get hi (hspecies.length_eq ▸ hi)⟩
  · rintro ⟨hhand, hfound⟩
    obtain ⟨species, hspecies⟩ | ⟨cause, hcause⟩ := exists_found_or_firstRefused lookup deck
    · exact ⟨_, opening_eq_ok hhand hlength hspecies⟩
    · obtain ⟨card, hcard, hrefused⟩ := hcause.exists_mem
      obtain ⟨data, hdata⟩ := hfound card hcard
      rw [hdata] at hrefused
      cases hrefused

/-- **What an opening comes to.** It is refused when the deck cannot supply the opening hand, else
when an entry of the deck list is not found, with the fault of the first one, and for no other
reason. With a catalog this is the fault that names the first entry that the catalog does not have.
Otherwise the duel has opened. -/
theorem opening_exact (config : DuelConfig) (lookup : CardId → Except RegistryFault CardData)
    (deck : List CardId) (hlength : deck.length + 1 < UInt32.size) :
    (∀ fault, opening config lookup deck = .error fault ↔
      (deck.length < config.openingHand.toNat ∧
        fault = .config (.shortDeck deck.length config.openingHand.toNat)) ∨
      (config.openingHand.toNat ≤ deck.length ∧
        ∃ cause, FirstRefused lookup deck cause ∧ fault = .registry cause)) ∧
    (∀ catalog : CardCatalog, lookup = catalog.get →
      ∀ cause, FirstRefused lookup deck cause ↔ catalog.FirstMissing id deck cause) ∧
    ((∃ s, opening config lookup deck = .ok s) ↔
      config.openingHand.toNat ≤ deck.length ∧
        ∀ card ∈ deck, ∃ data, lookup card = .ok data) ∧
    ∀ s, opening config lookup deck = .ok s → Opens config lookup deck s := by
  refine ⟨fun fault => opening_eq_error_iff hlength, ?_, exists_opening_iff hlength, fun s h => ?_⟩
  · rintro catalog rfl cause
    exact Registry.firstRefused_get_iff
  · obtain ⟨-, -, species, hspecies, rfl⟩ := exists_of_opening h
    exact opens_opened hlength hspecies

/-- An opening hand of two cards from the top of the deck. -/
def unshuffled : DuelConfig := { openingHand := 2, shuffleOnStart := false }

/-- A catalog with one card. -/
def oneCard : CardCatalog :=
  CardCatalog.empty.push ⟨1⟩ (.spell ⟨1⟩ "One" .normal) List.not_mem_nil

/-- The hand takes the third copy and then the second. An entry that the catalog does not have is
named, the first of them and not the second, but not when there are too few entries. -/
theorem opening_threeListed :
    (∃ s, opening unshuffled oneCard.get [⟨1⟩, ⟨1⟩, ⟨1⟩] = .ok s ∧
      (s.zone .hand).map (·.id) = [⟨3⟩, ⟨2⟩] ∧ (s.zone .deck).map (·.id) = [⟨1⟩]) ∧
    opening unshuffled oneCard.get [⟨1⟩, ⟨9⟩, ⟨8⟩] =
      .error (.registry (.unknown "card catalog" "Card(9)" ["Card(1)"])) ∧
    opening unshuffled oneCard.get [⟨9⟩] = .error (.config (.shortDeck 1 2)) := by
  refine ⟨?_, ?_, ?_⟩
  · obtain ⟨-, -, hopens, hspec⟩ :=
      opening_exact unshuffled oneCard.get [⟨1⟩, ⟨1⟩, ⟨1⟩] (by decide)
    have hfound : ∀ card ∈ ([⟨1⟩, ⟨1⟩, ⟨1⟩] : List CardId),
        ∃ data, oneCard.get card = .ok data := by
      intro card hcard
      obtain rfl : card = ⟨1⟩ := by simpa using hcard
      exact ⟨_, rfl⟩
    obtain ⟨s, hs⟩ := hopens.mpr ⟨by decide, hfound⟩
    refine ⟨s, hs, ?_, ?_⟩
    · rw [(hspec s hs).dealt]
      rfl
    · rw [(hspec s hs).left]
      rfl
  · obtain ⟨hrefused, hcatalog, -⟩ :=
      opening_exact unshuffled oneCard.get [⟨1⟩, ⟨9⟩, ⟨8⟩] (by decide)
    have hmissing : oneCard.FirstMissing id [⟨1⟩, ⟨9⟩, ⟨8⟩]
        (.unknown "card catalog" "Card(9)" ["Card(1)"]) :=
      .later (by decide) (.here (by decide))
    exact (hrefused _).mpr (.inr ⟨by decide, _, (hcatalog oneCard rfl _).mpr hmissing, rfl⟩)
  · obtain ⟨hrefused, -⟩ := opening_exact unshuffled oneCard.get [⟨9⟩] (by decide)
    exact (hrefused _).mpr (.inl ⟨by decide, rfl⟩)

end SoloDuel.Snapshot
