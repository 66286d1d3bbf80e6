import SoloDuel.Operation.Outcome
/-!
# Counters

Only cards on the field hold counters. A number of counters never runs past the largest word: adding
stops there.
-/

namespace SoloDuel.Snapshot

/-- How many counters of a kind a card on the field has. -/
def counterOn (s : Snapshot) (id : InstanceId) (kind : CounterKind) : Except Refusal UInt32 :=
  match s.find? id with
  | none => .error (.missing id)
  | some card =>
    match card.field with
    | none => .error (.holdsNoCounters id)
    | some state => .ok (state.counter kind)

/-- The outcome of a copy having a number of counters of a kind from now on. -/
def withCounter (s : Snapshot) (id : InstanceId) (kind : CounterKind) (count : UInt32) :
    Outcome where
  state := s.modifyField id (·.setCounter kind count)
  message := s!"{id} now has {count} {kind}(s)"

/-- A count held down to a limit, where there is one. -/
def atMost (limit : Option UInt32) (count : UInt32) : UInt32 :=
  match limit with
  | some most => min count most
  | none => count

/-- The sum of two counts, or the largest word where the sum is larger. -/
def raise (count amount : UInt32) : UInt32 :=
  UInt32.ofNat (min (count.toNat + amount.toNat) (UInt32.size - 1))

/-- Places counters on a card, up to a limit. -/
def addCounters (s : Snapshot) (id : InstanceId) (kind : CounterKind) (amount : UInt32)
    (limit : Option UInt32) : Attempt := do
  let held ← s.counterOn id kind
  return s.withCounter id kind (atMost limit (raise held amount))

/-- Removes counters from a card that has enough of them. -/
def removeCounters (s : Snapshot) (id : InstanceId) (kind : CounterKind) (amount : UInt32) :
    Attempt := do
  let held ← s.counterOn id kind
  if held < amount then throw (.fewCounters id held kind amount)
  return s.withCounter id kind (held - amount)

/-- Makes a card have a number of counters, up to a limit. -/
def setCounters (s : Snapshot) (id : InstanceId) (kind : CounterKind) (count : UInt32)
    (limit : Option UInt32) : Attempt := do
  let _ ← s.counterOn id kind
  return s.withCounter id kind (atMost limit count)

end SoloDuel.Snapshot
