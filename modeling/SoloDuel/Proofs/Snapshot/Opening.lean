import SoloDuel.Proofs.Board.Dealing
import SoloDuel.Proofs.Board.Fields
import SoloDuel.Proofs.Registry.Lookup
import SoloDuel.Proofs.Snapshot.Operations
/-!
# What a duel opens with

The opening lays out one copy for every entry of the deck list, numbered from 1 in list order.
Shuffling the deck and dealing the hand keep the copies.

* `Board.entryId`, `Board.numbered`, `Board.copies` — the copies of a list of species, numbered
  upwards.
* `layOut_eq_ok`, `layOut_eq_error` — what laying out comes to.
* `Snapshot.opened` — the snapshot that a deck of given species opens with; `opening_eq_ok`,
  `opening_shortDeck` and `opening_refused` say what an opening comes to.
* `Snapshot.opening_spec`, `Snapshot.opening_zone_eq_nil` — the opening snapshot.
-/

namespace SoloDuel

namespace Board

/-- The number of the copy that an entry of the deck list stands for. Entries are counted from 0. -/
def entryId (i : Nat) : InstanceId := ⟨UInt32.ofNat (i + 1)⟩

/-- Copies of species, numbered upwards, the first of them for entry `start`. -/
def numberedFrom (start : Nat) (species : List CardData) : List (InstanceId × CardData) :=
  (species.zipIdx start).map fun p => (entryId p.2, p.1)

/-- Copies of the species of a deck list. -/
def numbered (species : List CardData) : List (InstanceId × CardData) := numberedFrom 0 species

theorem next_entryId (i : Nat) : (entryId i).next = entryId (i + 1) := by
  simp [entryId, InstanceId.next, UInt32.ofNat_add]

theorem entryId_inj {i j : Nat} (hi : i + 1 < UInt32.size) (hj : j + 1 < UInt32.size)
    (h : entryId i = entryId j) : i = j := by
  have hnumber : UInt32.ofNat (i + 1) = UInt32.ofNat (j + 1) := congrArg InstanceId.number h
  have hnat := congrArg UInt32.toNat hnumber
  rw [UInt32.toNat_ofNat_of_lt' hi, UInt32.toNat_ofNat_of_lt' hj] at hnat
  exact Nat.add_right_cancel hnat

theorem map_fst_numbered (species : List CardData) :
    (numbered species).map Prod.fst = (List.range species.length).map entryId := by
  rw [numbered, numberedFrom, List.map_map, List.range_eq_range', ← List.zipIdx_map_snd 0 species,
    List.map_map]
  rfl

theorem nodup_numbered {species : List CardData} (h : species.length + 1 < UInt32.size) :
    ((numbered species).map Prod.fst).Nodup := by
  rw [map_fst_numbered]
  refine List.Nodup.map_on (fun i hi j hj heq => ?_) List.nodup_range
  rw [List.mem_range] at hi hj
  exact entryId_inj (by omega) (by omega) heq

theorem mem_numbered {species : List CardData} {i : Nat} (hi : i < species.length) :
    (entryId i, species[i]) ∈ numbered species := by
  refine List.mem_map.mpr ⟨(species[i], i), ?_, rfl⟩
  rw [List.mk_mem_zipIdx_iff_getElem?]
  exact List.getElem?_eq_getElem hi

/-! ## Laying out -/

/-- New copies in the deck, numbered upwards, the first of them for entry `start`. -/
def copiesFrom (start : Nat) (species : List CardData) : List CardInstance :=
  (numberedFrom start species).map fun p => .new p.1 p.2 .deck

/-- New copies in the deck of the species of a deck list. -/
def copies (species : List CardData) : List CardInstance := copiesFrom 0 species

theorem copiesFrom_cons (start : Nat) (data : CardData) (species : List CardData) :
    copiesFrom start (data :: species) =
      .new (entryId start) data .deck :: copiesFrom (start + 1) species := by
  simp [copiesFrom, numberedFrom]

theorem map_id_copies (species : List CardData) :
    (copies species).map (·.id) = (List.range species.length).map entryId := by
  rw [← map_fst_numbered, copies, copiesFrom, List.map_map]
  rfl

theorem eq_new_of_mem_copies {species : List CardData} {card : CardInstance}
    (h : card ∈ copies species) : card = .new card.id card.data .deck := by
  obtain ⟨p, -, rfl⟩ := List.mem_map.mp h
  rfl

variable {lookup : CardId → Except RegistryFault CardData} {deck : List CardId} {start : Nat}

/-- **Laying out adds copies of the species that are found on top of the deck.** -/
theorem layOut_eq_ok {species : List CardData}
    (h : List.Forall₂ (fun card data => lookup card = .ok data) deck species) (b : Board) :
    layOut lookup deck (entryId start) b =
      .ok { b with deck := b.deck ++ copiesFrom start species } := by
  induction h generalizing start b with
  | nil => simp [layOut, copiesFrom, numberedFrom]
  | cons hdata _ ih =>
    simp only [layOut, hdata]
    rw [next_entryId, ih, copiesFrom_cons]
    simp [insert, setZone, zone, CardInstance.new]

/-- Laying out is refused by the first species that is not found. -/
theorem layOut_eq_error {fault : RegistryFault} (h : FirstRefused lookup deck fault)
    (id : InstanceId) (b : Board) : layOut lookup deck id b = .error (.registry fault) := by
  induction h generalizing id b with
  | here hfault => simp only [layOut, hfault]
  | later hdata _ ih =>
    simp only [layOut, hdata]
    exact ih _ _

/-- A board on which nothing lies but a deck. -/
def ofDeck (cards : List CardInstance) : Board := { deck := cards }

theorem mem_zone_ofDeck {cards : List CardInstance} {name : ZoneName} {card : CardInstance} :
    card ∈ (ofDeck cards).zone name ↔ name = .deck ∧ card ∈ cards := by
  cases name <;> simp [ofDeck, zone]

theorem zone_ofDeck_of_ne {name : ZoneName} (h : name ≠ .deck) (cards : List CardInstance) :
    (ofDeck cards).zone name = [] :=
  List.eq_nil_iff_forall_not_mem.mpr fun _ hcard => h (mem_zone_ofDeck.mp hcard).1

theorem cards_ofDeck (cards : List CardInstance) :
    (ofDeck cards).cards = cards.map fun card => (.deck, card) := by
  simp [Board.cards, ZoneName.all, ofDeck, zone]

theorem roster_ofDeck_copies (species : List CardData) :
    (ofDeck (copies species)).roster = numbered species := by
  rw [roster, cards_ofDeck, copies, copiesFrom, List.map_map, List.map_map]
  exact List.map_id _

theorem sound_ofDeck_copies {species : List CardData} (h : species.length + 1 < UInt32.size) :
    (ofDeck (copies species)).Sound where
  distinct := by
    rw [← map_fst_roster, roster_ofDeck_copies]
    exact nodup_numbered h
  placed := by
    intro name card hcard
    obtain ⟨rfl, hcopy⟩ := mem_zone_ofDeck.mp hcard
    rw [eq_new_of_mem_copies hcopy]
    rfl
  fielded := by
    intro name card hcard
    obtain ⟨rfl, hcopy⟩ := mem_zone_ofDeck.mp hcard
    rw [eq_new_of_mem_copies hcopy]
    rfl

end Board

/-- The cards of a deck in the order in which they lie when a duel opens, bottom to top, and the
generator after that. -/
def DuelConfig.deckOrder {α : Type} (config : DuelConfig) (cards : List α) : List α × Generator :=
  if config.shuffleOnStart then (Generator.ofSeed config.seed).shuffle cards
  else (cards, .ofSeed config.seed)

theorem DuelConfig.deckOrder_perm {α : Type} (config : DuelConfig) (cards : List α) :
    (config.deckOrder cards).1.Perm cards := by
  unfold deckOrder
  split_ifs
  · exact Board.shuffle_perm _ cards
  · exact .refl cards

theorem DuelConfig.deckOrder_map {α β : Type} (f : α → β) (config : DuelConfig) (cards : List α) :
    config.deckOrder (cards.map f) =
      ((config.deckOrder cards).1.map f, (config.deckOrder cards).2) := by
  unfold deckOrder
  split_ifs
  · exact Board.shuffle_map f _ cards
  · rfl

namespace Snapshot

open Board

variable {config : DuelConfig} {lookup : CardId → Except RegistryFault CardData}
  {deck : List CardId} {s : Snapshot} {species : List CardData}

/-- The snapshot that a deck of some species opens with. -/
def opened (config : DuelConfig) (species : List CardData) : Snapshot where
  config := config
  board := (ofDeck (config.deckOrder (copies species)).1).dealt config.openingHand.toNat
  life := .both config.startingLife
  phase := .draw
  turn := 1
  chain := []
  result := .ongoing
  normalSummonsLeft := config.normalSummonsPerTurn
  usedCards := []
  usedEffects := []
  rng := (config.deckOrder (copies species)).2.state

theorem zone_deck_opened (config : DuelConfig) (species : List CardData) :
    (opened config species).zone .deck =
      (config.deckOrder (copies species)).1.rdrop config.openingHand.toNat := rfl

theorem zone_hand_opened (config : DuelConfig) (species : List CardData) :
    (opened config species).zone .hand =
      ((config.deckOrder (copies species)).1.rtake config.openingHand.toNat).reverse.map
        (·.movedTo .hand .faceUp) := rfl

theorem zone_opened_of_ne {name : ZoneName} (hdeck : name ≠ .deck) (hhand : name ≠ .hand)
    (config : DuelConfig) (species : List CardData) : (opened config species).zone name = [] := by
  rw [zone, opened, zone_dealt_of_ne hdeck hhand, zone_ofDeck_of_ne hdeck]

theorem zone_ofDeck_deckOrder_perm (config : DuelConfig) (species : List CardData)
    (name : ZoneName) : ((ofDeck (config.deckOrder (copies species)).1).zone name).Perm
      ((ofDeck (copies species)).zone name) := by
  cases name with
  | deck => exact config.deckOrder_perm (copies species)
  | _ => exact .refl _

theorem shuffled_ofDeck (config : DuelConfig) (cards : List CardInstance) :
    (if config.shuffleOnStart then (ofDeck cards).shuffleDeck (.ofSeed config.seed)
      else (ofDeck cards, .ofSeed config.seed)) =
      (ofDeck (config.deckOrder cards).1, (config.deckOrder cards).2) := by
  unfold DuelConfig.deckOrder
  split_ifs
  · rfl
  · rfl

theorem sound_ofDeck_deckOrder (config : DuelConfig) (h : species.length + 1 < UInt32.size) :
    (ofDeck (config.deckOrder (copies species)).1).Sound :=
  (sound_ofDeck_copies h).of_perm (zone_ofDeck_deckOrder_perm config species)

theorem sound_opened (config : DuelConfig) (h : species.length + 1 < UInt32.size) :
    (opened config species).board.Sound := (sound_ofDeck_deckOrder config h).dealt _

theorem roster_opened (config : DuelConfig) (h : species.length + 1 < UInt32.size) :
    (opened config species).board.roster.Perm (numbered species) := by
  have hdealt := roster_dealt (sound_ofDeck_deckOrder config h).distinct config.openingHand.toNat
  have horder := roster_perm (zone_ofDeck_deckOrder_perm config species)
  rw [roster_ofDeck_copies] at horder
  exact hdealt.trans horder

/-! ## What an opening comes to -/

/-- A deck that cannot supply the opening hand is refused, whatever is in it. -/
theorem opening_shortDeck (h : deck.length < config.openingHand.toNat) :
    opening config lookup deck =
      .error (.config (.shortDeck deck.length config.openingHand.toNat)) := by
  simp only [opening, if_pos h]
  rfl

/-- The first entry that is not found is refused, if the size of the deck is not. -/
theorem opening_refused (hhand : config.openingHand.toNat ≤ deck.length)
    (hlength : deck.length + 1 < UInt32.size) {fault : RegistryFault}
    (h : FirstRefused lookup deck fault) :
    opening config lookup deck = .error (.registry fault) := by
  simp only [opening, if_neg (Nat.not_lt_of_le hhand), if_neg (Nat.not_le_of_lt hlength),
    layOut_eq_error h]
  rfl

/-- **A deck of which all is found, and the size is not refused, opens.** -/
theorem opening_eq_ok (hhand : config.openingHand.toNat ≤ deck.length)
    (hlength : deck.length + 1 < UInt32.size)
    (h : List.Forall₂ (fun card data => lookup card = .ok data) deck species) :
    opening config lookup deck = .ok (opened config species) := by
  have hspecies : species.length + 1 < UInt32.size := h.length_eq ▸ hlength
  have hids := (sound_ofDeck_deckOrder config hspecies).distinct
  have hcheck : (opened config species).check = .ok () :=
    check_eq_ok_iff.mpr (sound_opened config hspecies)
  have hlayOut : layOut lookup deck .first {} = .ok (ofDeck (copies species)) := layOut_eq_ok h {}
  simp only [opening, if_neg (Nat.not_lt_of_le hhand), if_neg (Nat.not_le_of_lt hlength), hlayOut]
  refine bind_eq_ok.mpr ⟨_, rfl, ?_⟩
  -- the check comes last, on the board with the hand dealt
  rw [shuffled_ofDeck, dealHand_eq hids]
  exact bind_eq_ok.mpr ⟨(), hcheck, rfl⟩

/-- An opening that is not refused is that of the listed species. -/
theorem exists_of_opening (h : opening config lookup deck = .ok s) :
    (s.config = config ∧ s.normalSummonsLeft = config.normalSummonsPerTurn) ∧
      deck.length + 1 < UInt32.size ∧ ∃ species,
        List.Forall₂ (fun card data => lookup card = .ok data) deck species ∧
        s = opened config species := by
  by_cases hhand : deck.length < config.openingHand.toNat
  · rw [opening_shortDeck hhand] at h
    cases h
  by_cases hlength : UInt32.size ≤ deck.length + 1
  · simp only [opening, if_neg hhand, if_pos hlength] at h
    cases h
  rw [not_lt] at hhand
  rw [not_le] at hlength
  obtain ⟨species, hspecies⟩ | ⟨fault, hfault⟩ := exists_found_or_firstRefused lookup deck
  · rw [opening_eq_ok hhand hlength hspecies] at h
    cases h
    exact ⟨⟨rfl, rfl⟩, hlength, species, hspecies, rfl⟩
  · rw [opening_refused hhand hlength hfault] at h
    cases h

/-- **The opening snapshot is sound and holds one copy for every entry of the deck list.** -/
theorem opening_spec (h : opening config lookup deck = .ok s) :
    s.board.Sound ∧ deck.length + 1 < UInt32.size ∧
      ∃ species, List.Forall₂ (fun card data => lookup card = .ok data) deck species ∧
        s.board.roster.Perm (numbered species) := by
  obtain ⟨-, hlength, species, hspecies, rfl⟩ := exists_of_opening h
  have hspecies' : species.length + 1 < UInt32.size := hspecies.length_eq ▸ hlength
  exact ⟨sound_opened config hspecies', hlength, species, hspecies,
    roster_opened config hspecies'⟩

/-- A copy on a board with the copies of a deck list. -/
theorem find?_of_roster_perm (hs : s.board.ids.Nodup)
    (hroster : s.board.roster.Perm (numbered species)) {i : Nat} (hi : i < species.length) :
    ∃ card, s.find? (entryId i) = some card ∧ card.data = species[i] := by
  have hmem := hroster.mem_iff.mpr (mem_numbered hi)
  obtain ⟨p, hp, heq⟩ := List.mem_map.mp hmem
  obtain ⟨hid, hdata⟩ := Prod.mk.inj heq
  refine ⟨p.2, ?_, hdata⟩
  rw [← hid]
  exact Board.find?_of_mem hs (mem_cards.mp hp)

/-- The species of a copy is what the lookup gives for an entry of the deck list. -/
theorem exists_lookup_of_opening (h : opening config lookup deck = .ok s)
    {p : InstanceId × CardData} (hp : p ∈ s.board.roster) :
    ∃ card ∈ deck, lookup card = .ok p.2 := by
  obtain ⟨-, -, species, hspecies, hroster⟩ := opening_spec h
  obtain ⟨⟨data, i⟩, hdata, rfl⟩ := List.mem_map.mp (hroster.mem_iff.mp hp)
  obtain ⟨i, hi, rfl⟩ := List.mem_iff_getElem.mp (List.fst_mem_of_mem_zipIdx hdata)
  have hi' : i < deck.length := hspecies.length_eq ▸ hi
  exact ⟨deck[i], List.getElem_mem hi', hspecies.get hi' hi⟩

/-- **A duel opens with nothing on the field.** -/
theorem opening_zone_eq_nil (h : opening config lookup deck = .ok s) {name : ZoneName}
    (hname : name.isOnField = true) : s.zone name = [] := by
  obtain ⟨-, -, species, -, rfl⟩ := exists_of_opening h
  have hdeck : name ≠ .deck := by
    rintro rfl
    cases hname
  have hhand : name ≠ .hand := by
    rintro rfl
    cases hname
  exact zone_opened_of_ne hdeck hhand config species

end Snapshot

end SoloDuel
