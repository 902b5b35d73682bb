import RowRelay.Decimal.Shortest

/-!
# Reading numbers

The texts that count as a whole number or as a double where a setting is given as a text. A double
is the one nearest to the decimal written.
-/

set_option autoImplicit false

namespace RowRelay.Decimal

/-! ## Whole numbers -/

def digit? (c : Char) : Option Nat :=
  if '0' ≤ c ∧ c ≤ '9' then some (c.toNat - 48) else none

/-- The number that digits of the given base spell; there must be at least one. -/
def natural? (base : Nat) (cs : List Char) : Option Nat :=
  let value? (c : Char) : Option Nat :=
    let n := c.toNat
    let v :=
      if 48 ≤ n ∧ n ≤ 57 then n - 48
      else if 97 ≤ n ∧ n ≤ 122 then n - 87
      else if 65 ≤ n ∧ n ≤ 90 then n - 55
      else base
    if v < base then some v else none
  if cs.isEmpty then none
  else cs.foldlM (fun n c => (value? c).map (n * base + ·)) 0

/-- A sign in front, and what follows it. -/
def takeSign : List Char → Option Char × List Char
  | '+' :: cs => (some '+', cs)
  | '-' :: cs => (some '-', cs)
  | cs => (none, cs)

/-- A whole number with an optional sign. -/
def integer? (base : Nat) (cs : List Char) : Option Int :=
  match takeSign cs with
  | (some '-', cs) => (natural? base cs).map fun n => -(n : Int)
  | (_, cs) => (natural? base cs).map fun n => (n : Int)

/-- A whole number between -2^63 and 2^63 - 1. -/
def signed64? (base : Nat) (cs : List Char) : Option Int := do
  let n ← integer? base cs
  if Int64.minValue.toInt ≤ n ∧ n ≤ Int64.maxValue.toInt then some n else none

/-- A whole number below 2^64; a minus sign is refused even before zero. -/
def unsigned64? (cs : List Char) : Option Nat := do
  let digits := match cs with
    | '+' :: rest => rest
    | _ => cs
  let n ← natural? 10 digits
  if n < UInt64.size then some n else none

/-! ## Doubles -/

/-- The double nearest to a decimal. Far outside the range of doubles the decimal is zero or
infinite whatever its digits. -/
def nearest (d : Decimal) : Float :=
  let leading := d.exponent + digitCount d.digits
  if d.digits = 0 then 0.0
  else if 310 < leading then 1.0 / 0.0
  else if leading < -330 then 0.0
  else OfScientific.ofScientific d.digits (decide (d.exponent < 0)) d.exponent.natAbs

/-- Digits with an optional point: the digits on either side of it, at least one in all. -/
def mantissa? (cs : List Char) : Option (List Char × List Char × List Char) :=
  let (whole, rest) := cs.span Char.isDigit
  let (fraction, rest) := match rest with
    | '.' :: rest => rest.span Char.isDigit
    | _ => ([], rest)
  if whole.isEmpty && fraction.isEmpty then none else some (whole, fraction, rest)

/-- An exponent after `e` or `E`, or nothing at all. -/
def exponent? : List Char → Option Int
  | [] => some 0
  | c :: cs => if c = 'e' ∨ c = 'E' then integer? 10 cs else none

/-- The double that a text without sign spells. -/
def magnitude? (cs : List Char) : Option Float :=
  let word := String.ofList (cs.map Char.toLower)
  if word = "inf" ∨ word = "infinity" then some (1.0 / 0.0)
  else if word = "nan" then some (0.0 / 0.0)
  else do
    let (whole, fraction, rest) ← mantissa? cs
    let exponent ← exponent? rest
    let digits ← natural? 10 (whole ++ fraction)
    return nearest ⟨digits, exponent - fraction.length⟩

/-- The double that a text spells, with an optional sign. -/
def double? (cs : List Char) : Option Float :=
  match takeSign cs with
  | (some '-', cs) => (magnitude? cs).map (- ·)
  | (_, cs) => magnitude? cs

end RowRelay.Decimal
