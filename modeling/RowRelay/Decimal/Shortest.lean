import RowRelay.Binary64

/-!
# The shortest decimal of a double

Among the decimals that read back as a given double, `Decimal.shortest` takes one with the fewest
digits, and of those the nearest. A decimal reads back when it lies between the points halfway to
the neighbouring doubles; these two points themselves read back when the mantissa is even.

For one, two, … seventeen digits the decimals next to the value on either side are tested in whole
numbers. If any decimal of so many digits lies in the interval, so does one of these two.
-/

set_option autoImplicit false

namespace RowRelay

/-- The number `digits * 10 ^ exponent`. -/
structure Decimal where
  digits : Nat
  exponent : Int
  deriving DecidableEq, Repr

namespace Decimal

/-- How many decimal digits a number has. -/
def digitCount (n : Nat) : Nat :=
  (Nat.toDigits 10 n).length

/-- The exponent of the first digit of `num / den`, for positive numbers. -/
def leadingExponent (num den : Nat) : Int :=
  if den ≤ num then (digitCount (num / den) : Int) - 1
  else -(digitCount ((den - 1) / num) : Int)

/-- A positive double with the interval that reads back as it, over one denominator: the value is
`value / den`, and the interval reaches `below / den` down and `above / den` up. -/
structure Interval where
  value : Nat
  below : Nat
  above : Nat
  den : Nat
  closed : Bool

/-- The interval around `m * 2 ^ q`. Below a power of two the doubles lie twice as close. -/
def Interval.around (m : Nat) (q : Int) : Interval :=
  let low := if m = 1 <<< 52 ∧ -1074 < q then 1 else 2
  let scale := if 0 ≤ q then 1 <<< q.toNat else 1
  let den := if 0 ≤ q then 1 else 1 <<< (-q).toNat
  ⟨4 * m * scale, low * scale, 2 * scale, 4 * den, m % 2 == 0⟩

/-- Whether `num / den` lies in the interval, where `den` is the interval's times `unit`. -/
def Interval.contains (i : Interval) (num unit : Nat) : Bool :=
  let least := (i.value - i.below) * unit
  let greatest := (i.value + i.above) * unit
  if i.closed then least ≤ num && num ≤ greatest else least < num && num < greatest

/-- The decimal of `count` digits nearest to the value, if one lies in the interval. -/
def ofDigitCount? (i : Interval) (leading : Int) (count : Nat) : Option Decimal :=
  let exponent := leading - count + 1
  -- the grid is 10 ^ exponent; both sides are scaled to whole numbers
  let unit := if 0 ≤ exponent then 1 else Nat.pow 10 (-exponent).toNat
  let grid := if 0 ≤ exponent then Nat.pow 10 exponent.toNat * i.den else i.den
  let digits := i.value * unit / grid
  let down := i.contains (digits * grid) unit
  let up := i.contains ((digits + 1) * grid) unit
  let toDown := i.value * unit - digits * grid
  let toUp := (digits + 1) * grid - i.value * unit
  if down && (!up || toDown < toUp || (toDown == toUp && digits % 2 == 0)) then
    some ⟨digits, exponent⟩
  else if up then some ⟨digits + 1, exponent⟩
  else none

/-- The first decimal found with `count` digits or more, tried at most `left` times. -/
def search (i : Interval) (leading : Int) : (left count : Nat) → Option Decimal
  | 0, _ => none
  | left + 1, count => ofDigitCount? i leading count <|> search i leading left (count + 1)

/-- Drops zeros at the end of the digits, at most `left` of them. -/
def dropZeros : (left : Nat) → Decimal → Decimal
  | 0, d => d
  | left + 1, d =>
    if d.digits % 10 = 0 ∧ d.digits ≠ 0 then dropZeros left ⟨d.digits / 10, d.exponent + 1⟩ else d

/-- The shortest decimal that reads back as `m * 2 ^ q`. -/
def shortest (m : Nat) (q : Int) : Decimal :=
  if m = 0 then ⟨0, 0⟩
  else
    let i := Interval.around m q
    dropZeros 20 ((search i (leadingExponent i.value i.den) 17 1).getD ⟨0, 0⟩)

end Decimal

end RowRelay
