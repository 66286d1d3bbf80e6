import SoloDuel.Operation.Outcome
/-!
# Life

Life is counted in words of 64 bits, and a gain that goes past the largest of them wraps around. A
loss stops at zero, and its event carries what was really lost.
-/

namespace SoloDuel.Snapshot

/-- Raises a side's life. -/
def gainLife (s : Snapshot) (side : Side) (amount : UInt32) : Attempt :=
  let gained := Int64.ofNat amount.toNat
  .ok
    { state := { s with life := s.life.set side (s.life.get side + gained) }
      message := s!"{side} gained {amount} life points"
      events := [.lifeChanged side gained] }

/-- Lowers a side's life, but not below zero. -/
def loseLife (s : Snapshot) (side : Side) (amount : UInt32) : Attempt :=
  let before := s.life.get side
  let after := max (before - Int64.ofNat amount.toNat) 0
  let lost := before - after
  .ok
    { state := { s with life := s.life.set side after }
      message := s!"{side} lost {lost} life points"
      events := [.lifeChanged side (after - before)] }

end SoloDuel.Snapshot
