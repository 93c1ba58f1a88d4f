/-!
Backoff: how long a failed key waits before it is tried again. The delay doubles with every failure
until the factor has reached the largest number of 32 bits, and never exceeds its bound.
-/

namespace ControlPlane

/-- The bounds of the delays, in milliseconds. -/
structure Backoff where
  base : Nat
  max : Nat
  deriving DecidableEq, Inhabited

namespace Backoff

/-- The factor by which the first delay has grown after a number of failures. -/
def factor (failures : Nat) : Nat :=
  if failures < 32 then Nat.pow 2 failures else UInt32.size - 1

/-- The delay after a number of failures. -/
def delay (b : Backoff) (failures : Nat) : Nat := min (b.base * factor failures) b.max

end Backoff

end ControlPlane
