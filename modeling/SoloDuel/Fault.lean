import SoloDuel.Ident
import SoloDuel.Zone.Name
/-!
# Faults

A fault means that the duel was put together wrongly: an identifier registered twice or never, a
configuration that cannot be played, a snapshot that no play leads to. What a player may try and
be refused is a `Refusal` instead.

* `RegistryFault` — a table refused a registration or a look-up.
* `BoardFault` — what is wrong with a board.
* `EngineFault` — everything that can go wrong in setting up and driving a duel.
-/

namespace SoloDuel

/-- A table refused a registration or a look-up. -/
inductive RegistryFault where
  /-- The identifier is taken already. -/
  | duplicate (registry id : String)
  /-- Nothing is registered under the identifier; `available` lists what is. -/
  | unknown (registry id : String) (available : List String)
  deriving DecidableEq

namespace RegistryFault

/-- The text of the identifier the fault is about. -/
def id : RegistryFault → String
  | duplicate _ id => id
  | unknown _ id _ => id

/-- The wording of a fault. -/
def message : RegistryFault → String
  | duplicate registry id => s!"{registry}: identifier {id} is already registered"
  | unknown registry id available =>
    let listed := ", ".intercalate available
    s!"{registry}: unknown identifier {id} (available: [{listed}])"

end RegistryFault

/-- What is wrong with a board. -/
inductive BoardFault where
  /-- A copy is in more than one place. -/
  | repeated (id : InstanceId)
  /-- A copy records another zone than the one that holds it. -/
  | misplaced (id : InstanceId) (recorded holder : ZoneName)
  /-- A copy has field state off the field, or none on it. -/
  | mismatched (id : InstanceId) (holder : ZoneName)
  deriving DecidableEq

namespace BoardFault

/-- The wording of a fault. -/
def message : BoardFault → String
  | repeated id => s!"{id} appears in more than one place"
  | misplaced id recorded holder => s!"{id} records {recorded} but is held by {holder}"
  | mismatched id holder => s!"{id} has field state mismatched with {holder}"

end BoardFault

/-- What is wrong with a configuration. -/
inductive ConfigFault where
  /-- The starting life is zero or less. -/
  | startingLife (life : Int)
  /-- A zone on the field has no slot. -/
  | noSlot
  /-- The deck has fewer cards than the opening hand. -/
  | shortDeck (deck openingHand : Nat)
  /-- The deck has more cards than there are numbers for copies. The game itself does not report
  this; see `Snapshot.opening`. -/
  | longDeck (deck : Nat)
  deriving DecidableEq

namespace ConfigFault

/-- The wording of a fault. -/
def message : ConfigFault → String
  | startingLife life => s!"starting life must be positive, got {life}"
  | noSlot => "zone capacities must be at least 1"
  | shortDeck deck openingHand =>
    s!"deck of {deck} cannot supply an opening hand of {openingHand}"
  | longDeck deck => s!"deck of {deck} has more cards than can be numbered"

end ConfigFault

/-- Where a sequencer has to be for a call to be allowed. -/
inductive Expected where
  | idle
  | awaitingSelection
  deriving DecidableEq

namespace Expected

/-- How messages show the status a call needs. -/
def text : Expected → String
  | idle => "idle"
  | awaitingSelection => "awaiting a selection"

instance : ToString Expected := ⟨text⟩

end Expected

/-- What can go wrong in setting up and driving a duel. -/
inductive EngineFault where
  | registry (fault : RegistryFault)
  | config (fault : ConfigFault)
  /-- No zone holds the copy. -/
  | unknownInstance (id : InstanceId)
  | board (fault : BoardFault)
  /-- A sequencer was called at the wrong time. -/
  | sequencer (expected : Expected)
  deriving DecidableEq

namespace EngineFault

/-- The wording of a fault. -/
def message : EngineFault → String
  | registry fault => fault.message
  | config fault => s!"invalid configuration: {fault.message}"
  | unknownInstance id => s!"instance {id} not found in any zone"
  | board fault => s!"snapshot invariant violated: {fault.message}"
  | sequencer expected => s!"sequencer is not {expected}"

end EngineFault

end SoloDuel
