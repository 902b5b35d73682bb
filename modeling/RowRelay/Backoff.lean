import RowRelay.Binary64.Product
import RowRelay.Duration
import RowRelay.Jitter

/-!
# Waiting between attempts

A policy gives the wait before each attempt: a base that grows by a factor with every attempt, up
to a greatest wait. The growth is computed in doubles, so a wait is exact to the nanosecond only
while the numbers involved fit fifty-three bits. With jitter a wait is drawn from the upper half
of the nominal one, so that relays started together do not retry together.
-/

set_option autoImplicit false

namespace RowRelay

structure RetryPolicy where
  base : Duration
  multiplier : Float
  max : Duration
  jitter : Bool

namespace RetryPolicy

/-- A doubling wait with jitter. -/
def doubling (base max : Duration) : RetryPolicy :=
  ⟨base, 2.0, max, true⟩

def withoutJitter (policy : RetryPolicy) : RetryPolicy :=
  { policy with jitter := false }

/-! ## Delays -/

/-- How often the base has grown before an attempt. -/
def growth (attempt : Nat) : Nat :=
  min (attempt - 1) 63

/-- A whole number of nanoseconds below 2^64. -/
def wait (x : Binary64) : Duration :=
  ⟨(x.round 0 (UInt64.size - 1)).toNat⟩

/-- The wait before an attempt, counted from one, before jitter. -/
def nominal (policy : RetryPolicy) (attempt : Nat) : Duration :=
  let power := (Binary64.ofNat 1).mulPower (.ofFloat policy.multiplier) (growth attempt)
  let nanos := (Binary64.ofNat policy.base.nanos).mul power
  wait ((nanos.lesser (.ofNat policy.max.nanos)).greater (.ofNat 0))

/-- The wait before an attempt, as the jitter drawn for it has it. -/
def delay (policy : RetryPolicy) (attempt : Nat) (jitter : Jitter) : Duration :=
  let nominal := policy.nominal attempt
  if policy.jitter then wait ((Binary64.ofNat nominal.nanos).mul jitter.factor) else nominal

end RetryPolicy

/-- A policy and the number of misses in a row. -/
structure Backoff where
  policy : RetryPolicy
  consecutive : Nat

namespace Backoff

/-- The greatest number of misses that is counted. -/
def maxConsecutive : Nat := UInt32.size - 1

def ofPolicy (policy : RetryPolicy) : Backoff :=
  ⟨policy, 0⟩

/-- Counts one more miss. -/
def miss (b : Backoff) : Backoff :=
  { b with consecutive := min (b.consecutive + 1) maxConsecutive }

/-- How long to wait after the misses counted. -/
def delay (b : Backoff) (jitter : Jitter) : Duration :=
  b.policy.delay b.consecutive jitter

def reset (b : Backoff) : Backoff :=
  { b with consecutive := 0 }

end Backoff

end RowRelay
