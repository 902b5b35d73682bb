/-!
# The exact value of a double

A double is a sign, a whole number and a power of two. `Binary64.ofFloat` takes a double apart, and
`Binary64.round` rounds it to a whole number, a half going away from zero.
-/

set_option autoImplicit false

namespace RowRelay

/-- A double by its parts: a finite one is `mantissa * 2 ^ exponent` with a sign. -/
inductive Binary64 where
  | notANumber
  | infinite (negative : Bool)
  | finite (negative : Bool) (mantissa : Nat) (exponent : Int)
  deriving DecidableEq, Repr

namespace Binary64

/-- The parts of a double, from its bits: the sign, eleven bits of exponent, fifty-two of
fraction. -/
def ofFloat (x : Float) : Binary64 :=
  let bits := x.toBits.toNat
  let negative := bits >>> 63 == 1
  let field : Nat := bits >>> 52 % 2048
  let fraction : Nat := bits % 1 <<< 52
  if field = 2047 then
    if fraction = 0 then .infinite negative else .notANumber
  else if field = 0 then .finite negative fraction (-1074)
  else .finite negative (1 <<< 52 + fraction) ((field : Int) - 1075)

/-- The whole number nearest to `m * 2 ^ q`, a half going up. -/
def roundHalfUp (m : Nat) (q : Int) : Nat :=
  if 0 ≤ q then m <<< q.toNat
  else
    let half := 1 <<< ((-q).toNat - 1)
    (m + half) / (2 * half)

/-- Rounds to the nearest whole number, a half going away from zero, and takes the nearer bound
for what lies outside. A value that is no number counts as zero. -/
def round (least greatest : Int) : Binary64 → Int
  | .notANumber => 0
  | .infinite negative => if negative then least else greatest
  | .finite negative m q =>
    let n : Int := roundHalfUp m q
    max least (min greatest (if negative then -n else n))

end Binary64

end RowRelay
