import RowRelay.Binary64

/-!
# Arithmetic of doubles

Products and comparisons of doubles, on whole numbers. A product is the double nearest to the exact
one, of two equally near the one whose last bit is zero; the operations hold at infinities and for
what is no number.
-/

set_option autoImplicit false

namespace RowRelay.Binary64

/-! ## Rounding -/

/-- The whole number nearest to `m / 2 ^ k`, of two equally near the even one. -/
def halfEven (m k : Nat) : Nat :=
  let down := m >>> k
  let rest := 2 * (m % 1 <<< k)
  if 1 <<< k < rest ∨ (rest = 1 <<< k ∧ down % 2 = 1) then down + 1 else down

/-- How many bits a number has. -/
def bitCount (m : Nat) : Nat :=
  if m = 0 then 0 else Nat.log2 m + 1

/-- The double nearest to `m * 2 ^ q`: fifty-three bits are kept, fewer where the last of them
would stand for less than `2 ^ -1074`. -/
def nearest (negative : Bool) (m : Nat) (q : Int) : Binary64 :=
  let place := max q (max (q + bitCount m - 53) (-1074))
  let kept := halfEven m (place - q).toNat
  if kept = 0 then .finite negative 0 0
  else if 1024 < place + bitCount kept then .infinite negative
  else .finite negative kept place

def ofNat (n : Nat) : Binary64 :=
  nearest false n 0

/-! ## Products -/

def mul : Binary64 → Binary64 → Binary64
  | .notANumber, _ | _, .notANumber => .notANumber
  | .infinite a, .infinite b => .infinite (a != b)
  | .infinite a, .finite b m _ | .finite b m _, .infinite a =>
    if m = 0 then .notANumber else .infinite (a != b)
  | .finite a m p, .finite b n q => nearest (a != b) (m * n) (p + q)

/-- The product of `result` and `factor ^ n`, by squaring. -/
def mulPower (result factor : Binary64) (n : Nat) : Binary64 :=
  let result := if n % 2 = 1 then result.mul factor else result
  if h : n / 2 = 0 then result else mulPower result (factor.mul factor) (n / 2)
termination_by n
decreasing_by omega

/-! ## Comparisons -/

/-- A number of units with its sign. -/
def signed (negative : Bool) (m : Nat) : Int :=
  if negative then -m else m

/-- Whether one double is less than another; nothing is less or greater than what is no number. -/
def isLess : Binary64 → Binary64 → Bool
  | .notANumber, _ | _, .notANumber => false
  | .infinite a, .infinite b => a && !b
  | .infinite a, .finite .. => a
  | .finite .., .infinite b => !b
  | .finite a m p, .finite b n q =>
    let least := min p q
    signed a (m <<< (p - least).toNat) < signed b (n <<< (q - least).toNat)

/-- The lesser of two doubles; of a number and no number, the number. -/
def lesser : Binary64 → Binary64 → Binary64
  | .notANumber, y => y
  | x, y => if y.isLess x then y else x

/-- The greater of two doubles; of a number and no number, the number. -/
def greater : Binary64 → Binary64 → Binary64
  | .notANumber, y => y
  | x, y => if x.isLess y then y else x

end RowRelay.Binary64
