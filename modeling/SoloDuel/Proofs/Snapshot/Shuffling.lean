import SoloDuel.Proofs.Random.Shuffles
import SoloDuel.Proofs.Sequencer.Protocol
import SoloDuel.Proofs.Snapshot.Success
/-!
# What a shuffle of the deck can see

A search takes a card out of the deck and shuffles the others. Which card it takes changes nothing
about the shuffle but the number of cards: the places are drawn from the generator, not from the
cards.

* `Snapshot.Finds` — the card of the deck that a search comes upon; `finds_of_check` says that it
  comes upon every one where no copy is in two places.
* `Snapshot.Rearranges` — cards have left the deck for the hand, the rest of it lies in the order of
  a list of places, and nothing else has changed.
* `Snapshot.rearranges_shuffle`, `rearranges_search` — a shuffle and a search do so.
* `Snapshot.shuffles_alike` — decks of one size are shuffled alike.
-/

namespace SoloDuel.Snapshot

variable {s t u : Snapshot} {id : InstanceId} {place : Nat} {card : CardInstance}

/-! ## The card that is searched -/

/-- A search for a number comes upon a card: it lies at a place of the deck, has the number as no
card below it does, and records that it is in the deck. -/
structure Finds (s : Snapshot) (id : InstanceId) (place : Nat) (card : CardInstance) : Prop where
  lies : (s.zone .deck)[place]? = some card
  number : card.id = id
  first : ∀ c ∈ (s.zone .deck).take place, c.id ≠ id
  recorded : card.location = .deck

/-- Where no copy is in two places, a search comes upon every card of the deck. -/
theorem finds_of_check (hcheck : s.check = .ok ()) (hcard : (s.zone .deck)[place]? = some card) :
    s.Finds card.id place card where
  lies := hcard
  number := rfl
  first := by
    have hs : s.board.Sound := Board.check_eq_ok_iff.mp hcheck
    obtain ⟨hplace, rfl⟩ := List.getElem?_eq_some_iff.mp hcard
    intro c hc hid
    obtain ⟨below, hbelow, rfl⟩ := List.mem_take_iff_getElem.mp hc
    have hlt : below < place := lt_of_lt_of_le hbelow (min_le_left _ _)
    have hnodup := Board.zone_nodup hs.distinct .deck
    have hsame : below = place := by
      have hbelow' : below < ((s.zone .deck).map (·.id)).length := by
        rw [List.length_map]
        exact hlt.trans hplace
      have hplace' : place < ((s.zone .deck).map (·.id)).length := by rwa [List.length_map]
      have hids : ((s.zone .deck).map (·.id))[below] = ((s.zone .deck).map (·.id))[place] := by
        rw [List.getElem_map, List.getElem_map]
        exact hid
      exact hnodup.getElem_inj_iff.mp hids
    omega
  recorded := (Board.check_eq_ok_iff.mp hcheck).placed .deck card (List.mem_of_getElem? hcard)

theorem Finds.findIdx?_eq (h : s.Finds id place card) :
    s.board.deck.findIdx? (·.id = id) = some place := by
  obtain ⟨hplace, hcard⟩ := List.getElem?_eq_some_iff.mp h.lies
  refine List.findIdx?_eq_some_iff_getElem.mpr ⟨hplace, ?_, fun below hbelow => ?_⟩
  · have hid : s.board.deck[place].id = id := (congrArg (·.id) hcard).trans h.number
    simpa using hid
  · have hlt : below < s.board.deck.length := hbelow.trans hplace
    have hbelowCard : s.board.deck[below] ∈ (s.zone .deck).take place :=
      List.mem_take_iff_getElem.mpr ⟨below, lt_min hbelow hlt, rfl⟩
    have hne : s.board.deck[below].id ≠ id := h.first _ hbelowCard
    simpa using hne

theorem Finds.locate_eq (h : s.Finds id place card) :
    s.board.locate id = some (.deck, place) := by
  have hdeck := h.findIdx?_eq
  simp [Board.locate, ZoneName.all, Board.zone, hdeck]

theorem Finds.find?_eq (h : s.Finds id place card) : s.find? id = some card := by
  have hdeck : s.board.deck.find? (·.id = id) = some card := by
    rw [List.find?_eq_bind_findIdx?_getElem?, h.findIdx?_eq]
    exact h.lies
  simp [find?, Board.find?, ZoneName.all, Board.zone, hdeck]

/-- The snapshot with the card at a place of the deck gone to the hand. -/
def fetched (s : Snapshot) (place : Nat) (card : CardInstance) : Snapshot :=
  { s with
    board := { s.board with
      deck := s.board.deck.eraseIdx place
      hand := s.board.hand ++ [card.movedTo .hand .faceUp] } }

theorem Finds.relocate_eq (h : s.Finds id place card) :
    s.relocate id .hand .faceUp = .ok (.deck, s.fetched place card) := by
  have hlocation : s.location? id = some .deck := by
    rw [location?, h.find?_eq, Option.map_some, h.recorded]
  have hmove : s.board.moveTo id .hand .faceUp .top =
      some (.deck, (s.fetched place card).board) := by
    have hcard : (s.board.zone .deck)[place]? = some card := h.lies
    simp only [Board.moveTo, Board.remove, h.locate_eq, hcard, h.recorded, bind, Option.bind, pure]
    rfl
  have hroom : s.hasSpace .hand = true := rfl
  simp [relocate, hlocation, hroom, hmove, fetched]

/-! ## Shuffling -/

/-- Cards have come from the deck to the end of the hand. Those that are left of the deck lie in the
order of a list of places, the generator of the next shuffle is kept, and nothing else has
changed. -/
structure Rearranges (places : List Nat) (next : RngState) (left found : List CardInstance)
    (s t : Snapshot) : Prop where
  deck : Reorders places left (t.zone .deck)
  /-- The cards in the deck are those that are left. -/
  perm : (t.zone .deck).Perm left
  hand : t.zone .hand = s.zone .hand ++ found
  others : ∀ name, name ≠ .deck → name ≠ .hand → t.zone name = s.zone name
  kept : t.rng = next
  rest : t = { s with board := t.board, rng := t.rng }

/-- The places of the shuffle of a number of cards. -/
def shufflePlaces (rng : RngState) (count : Nat) : List Nat :=
  (Generator.ofState rng).places count

/-- What is kept of the generator after the shuffle of a number of cards. -/
def rngAfter (rng : RngState) (count : Nat) : RngState :=
  (Generator.swaps count (Generator.ofState rng)).2.state

/-- **A shuffle sees the generator and the number of cards.** -/
theorem rearranges_shuffle (s : Snapshot) :
    Rearranges (shufflePlaces s.rng (s.count .deck)) (rngAfter s.rng (s.count .deck)) (s.zone .deck)
      [] s s.shuffle where
  deck := Generator.reorders_shuffle _ s.board.deck
  perm := s.board.shuffleDeck_perm _ .deck
  hand := (List.append_nil _).symm
  others := by
    intro name hdeck _
    cases name with
    | deck => exact absurd rfl hdeck
    | _ => rfl
  kept := rfl
  rest := rfl

theorem shuffleDeck_spec (s : Snapshot) : ∃ out, s.shuffleDeck = .ok out ∧
    Rearranges (shufflePlaces s.rng (s.count .deck)) (rngAfter s.rng (s.count .deck)) (s.zone .deck)
      [] s out.state :=
  ⟨_, rfl, s.rearranges_shuffle⟩

/-- **A search shuffles what is left of the deck** as if the card had never been there. -/
theorem rearranges_search (h : s.Finds id place card) {count : Nat}
    (hcount : s.count .deck = count + 1) : ∃ out, s.search id = .ok out ∧
      Rearranges (shufflePlaces s.rng count) (rngAfter s.rng count)
        ((s.zone .deck).eraseIdx place) [card.movedTo .hand .faceUp] s out.state := by
  obtain ⟨hplace, -⟩ := List.getElem?_eq_some_iff.mp h.lies
  have hleft : (s.fetched place card).count .deck = count := by
    have hlength := List.length_eraseIdx_add_one hplace
    have htotal : (s.zone .deck).length = count + 1 := hcount
    rw [htotal] at hlength
    exact Nat.succ_injective hlength
  have hshuffle := (s.fetched place card).rearranges_shuffle
  rw [hleft] at hshuffle
  refine ⟨{ state := (s.fetched place card).shuffle
            message := s!"added {id} from the deck to the hand" }, ?_, ?_⟩
  · rw [search, requireIn_eq h.find?_eq h.recorded, h.relocate_eq]
    rfl
  · exact {
      deck := hshuffle.deck
      perm := hshuffle.perm
      hand := rfl
      others := by
        intro name hdeck hhand
        rw [hshuffle.others name hdeck hhand]
        cases name with
        | deck => exact absurd rfl hdeck
        | hand => exact absurd rfl hhand
        | _ => rfl
      kept := hshuffle.kept
      rest := rfl }

/-- **Decks of one size are shuffled alike.** What the generator is and how many cards are left
settle the places of the shuffle and the generator to go on with. Every shuffle of that many cards
puts them in the order of those places, and every search that leaves that many does, whatever the
cards are: the one at a place of the deck comes to the end of the hand, the others lie in that
order, and nothing else changes. Where no copy is in two places, a search comes upon each card of
the deck. -/
theorem shuffles_alike (rng : RngState) (count : Nat) :
    (shufflePlaces rng count).Perm (List.range count) ∧
      (∀ s : Snapshot, s.rng = rng → s.count .deck = count →
        ∃ out, s.shuffleDeck = .ok out ∧
          Rearranges (shufflePlaces rng count) (rngAfter rng count) (s.zone .deck) [] s
            out.state) ∧
      (∀ (s : Snapshot) (id : InstanceId) (place : Nat) (card : CardInstance), s.rng = rng →
        s.count .deck = count + 1 → s.Finds id place card →
        ∃ out, s.search id = .ok out ∧
          Rearranges (shufflePlaces rng count) (rngAfter rng count)
            ((s.zone .deck).eraseIdx place) [card.movedTo .hand .faceUp] s out.state) ∧
      ∀ (s : Snapshot) (place : Nat) (card : CardInstance), s.check = .ok () →
        (s.zone .deck)[place]? = some card → s.Finds card.id place card := by
  refine ⟨Generator.places_perm _ count, ?_, ?_, ?_⟩
  · rintro s rfl rfl
    exact s.shuffleDeck_spec
  · rintro s id place card rfl hcount hfinds
    exact rearranges_search hfinds hcount
  · exact fun s place card hcheck hcard => finds_of_check hcheck hcard

/-- A deck of spells with these numbers, and a generator of which one word was drawn. -/
def spellDeck (ids : List UInt32) (type : SpellType) : Snapshot :=
  { Sequencer.cardless with
    board := { deck := ids.map fun id => .new ⟨id⟩ (.spell ⟨id⟩ "Spell" type) .deck }
    rng := ⟨7, 1⟩ }

/-- Two decks with no card in common. The second card of each is searched; what is left of them is
put in one and the same order, and two words are drawn for it. -/
theorem shuffles_alike_spellDecks :
    shufflePlaces ⟨7, 1⟩ 3 = [1, 2, 0] ∧ rngAfter ⟨7, 1⟩ 3 = ⟨7, 3⟩ ∧
      ∃ normal field : Outcome,
        (spellDeck [1, 2, 3, 4] .normal).search ⟨2⟩ = .ok normal ∧
        (spellDeck [5, 6, 7, 8] .field).search ⟨6⟩ = .ok field ∧
        Reorders [1, 2, 0] ((spellDeck [1, 3, 4] .normal).zone .deck) (normal.state.zone .deck) ∧
        Reorders [1, 2, 0] ((spellDeck [5, 7, 8] .field).zone .deck) (field.state.zone .deck) ∧
        normal.state.rng = ⟨7, 3⟩ ∧ field.state.rng = ⟨7, 3⟩ := by
  have hplaces : shufflePlaces ⟨7, 1⟩ 3 = [1, 2, 0] := by decide +kernel
  have hnext : rngAfter ⟨7, 1⟩ 3 = ⟨7, 3⟩ := by decide +kernel
  obtain ⟨-, -, hsearch, hfinds⟩ := shuffles_alike ⟨7, 1⟩ 3
  rw [hplaces, hnext] at hsearch
  have hnormal := hfinds (spellDeck [1, 2, 3, 4] .normal) 1 _ rfl rfl
  have hfield := hfinds (spellDeck [5, 6, 7, 8] .field) 1 _ rfl rfl
  obtain ⟨normal, houtN, hN⟩ := hsearch _ _ 1 _ rfl rfl hnormal
  obtain ⟨field, houtF, hF⟩ := hsearch _ _ 1 _ rfl rfl hfield
  exact ⟨hplaces, hnext, normal, field, houtN, houtF, hN.deck, hF.deck, hN.kept, hF.kept⟩

end SoloDuel.Snapshot
