import RowRelay.Binary64

/-!
# Jitter

A wait is shortened by a factor drawn at random, so that those who began to wait together do not go
on together. At most half of the wait is taken away.
-/

set_option autoImplicit false

namespace RowRelay

/-- A factor from one half up to one, in units of `2 ^ -53`; every double of that range is one. -/
structure Jitter where
  units : Nat
  half_le : 1 <<< 52 ≤ units := by decide
  le_one : units ≤ 1 <<< 53 := by decide

/-- Three quarters. -/
def Jitter.middle : Jitter := { units := 3 <<< 51 }

/-- A factor as a double. -/
def Jitter.factor (j : Jitter) : Binary64 :=
  .finite false j.units (-53)

end RowRelay
