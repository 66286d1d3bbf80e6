import SoloDuel.Card.Catalog
import SoloDuel.Snapshot.Basic
/-!
# The opening of a duel

A duel opens from a configuration and a deck list. The entries of the list are numbered from 1 in
list order, the last one on top; the deck is shuffled if the configuration says so, and the opening
hand is drawn from the top.
-/

namespace SoloDuel

namespace Board

/-- Lays out copies of the species of a deck list, numbered upwards from `id`, each on top of the
one before. -/
def layOut (lookup : CardId → Except RegistryFault CardData) :
    List CardId → InstanceId → Board → Except EngineFault Board
  | [], _, b => .ok b
  | card :: rest, id, b =>
    match lookup card with
    | .ok data => layOut lookup rest id.next (b.insert (.new id data .deck) .top)
    | .error fault => .error (.registry fault)

/-- Moves cards one at a time from the top of the deck to the hand, as far as there are any. -/
def dealHand : Nat → Board → Board
  | 0, b => b
  | n + 1, b =>
    match b.top? .deck with
    | some card =>
      match b.moveTo card.id .hand .faceUp .top with
      | some (_, b') => dealHand n b'
      | none => dealHand n b
    | none => dealHand n b

end Board

namespace Snapshot

/-- The opening snapshot. The deck has to supply the opening hand. The second check, that there are
32-bit numbers for all copies, is one that this description adds: the game makes no such check, and
what becomes of a duel in which the numbers run out is left out here. -/
def opening (config : DuelConfig) (lookup : CardId → Except RegistryFault CardData)
    (deck : List CardId) : Except EngineFault Snapshot := do
  if deck.length < config.openingHand.toNat then
    throw (.config (.shortDeck deck.length config.openingHand.toNat))
  if UInt32.size ≤ deck.length + 1 then
    throw (.config (.longDeck deck.length))
  let laidOut ← Board.layOut lookup deck .first {}
  let (shuffled, g) :=
    if config.shuffleOnStart then laidOut.shuffleDeck (.ofSeed config.seed)
    else (laidOut, .ofSeed config.seed)
  let s : Snapshot :=
    { config := config
      board := shuffled.dealHand config.openingHand.toNat
      life := .both config.startingLife
      phase := .draw
      turn := 1
      chain := []
      result := .ongoing
      normalSummonsLeft := config.normalSummonsPerTurn
      usedCards := []
      usedEffects := []
      rng := g.state }
  s.check
  return s

end Snapshot

end SoloDuel
