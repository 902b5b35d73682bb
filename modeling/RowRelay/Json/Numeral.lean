import RowRelay.Json.Cursor

/-!
# Numbers of a JSON text

A whole number that fits 64 bits is read exactly. Every other number is the product of its digits
and a power of ten, each a double, so it need not be the double nearest to the decimal written:
digits count while they fit 64 bits, and one multiplication or division follows.
-/

set_option autoImplicit false

namespace RowRelay.Json

def isDigit (b : UInt8) : Bool := 48 ≤ b && b ≤ 57

def digitsFrom : Bytes → Position → List Nat × Cursor
  | [], p => ([], ⟨[], p⟩)
  | b :: bs, p =>
    if isDigit b then
      let (ds, c) := digitsFrom bs (p.step b)
      ((b.toNat - 48) :: ds, c)
    else ([], ⟨b :: bs, p⟩)

/-- Reads digits as far as they go. -/
def digits (c : Cursor) : List Nat × Cursor :=
  digitsFrom c.rest c.position

/-- Reads the digits before the point: a zero alone, or digits that begin with another. -/
def wholePart (c : Cursor) : Except Fault (List Nat × Cursor) :=
  match c.next? with
  | none => .error (c.fault .unfinishedValue)
  | some (b, after) =>
    if b = 48 then
      match after.rest with
      | d :: _ => if isDigit d then .error (after.faultAhead .invalidNumber) else .ok ([0], after)
      | [] => .ok ([0], after)
    else if isDigit b then .ok (digits c)
    else .error (after.fault .invalidNumber)

/-- Adds digits to a number while it stays below 2^64, and counts those left over. -/
def accumulate : Nat → List Nat → Nat × Nat
  | s, [] => (s, 0)
  | s, d :: ds =>
    if s * 10 + d < UInt64.size then accumulate (s * 10 + d) ds else (s, ds.length + 1)

/-! ## Powers of ten -/

/-- The double nearest to `10 ^ n`. -/
def powerOfTen (n : Nat) : Float :=
  OfScientific.ofScientific 1 false n

/-- The greatest and the least exponent of a number of 32 bits. -/
def clampExponent (e : Int) : Int :=
  max Int32.minValue.toInt (min Int32.maxValue.toInt e)

/-- `f * 10 ^ e` by one operation on doubles where `10 ^ |e|` is one, after divisions by `10 ^ 308`
where `e` is far below. There is no value when the result is infinite. -/
def scale (f : Float) (e : Int) : Option Float :=
  if e.natAbs ≤ 308 then
    if 0 ≤ e then
      let x := f * powerOfTen e.natAbs
      if x.isInf then none else some x
    else some (f / powerOfTen e.natAbs)
  else if f == 0.0 then some f
  else if 0 ≤ e then none
  else scale (f / powerOfTen 308) (e + 308)
termination_by e.natAbs
decreasing_by omega

/-- The double with the given sign, digits and exponent. -/
def double (negative : Bool) (s : Nat) (e : Int) (c : Cursor) : Except Fault (Number × Cursor) :=
  match scale s.toUInt64.toFloat e with
  | some x => .ok (.float (if negative then -x else x), c)
  | none => .error (c.fault .numberOutOfRange)

/-! ## The exponent written -/

/-- How many digits bring a number beyond 32 bits, if they do, and the number otherwise. -/
def exponentDigits : (count n : Nat) → List Nat → Nat ⊕ Nat
  | _, n, [] => .inr n
  | count, n, d :: ds =>
    if (n * 10 + d : Nat) ≤ Int32.maxValue.toInt then exponentDigits (count + 1) (n * 10 + d) ds
    else .inl (count + 1)

/-- Reads an exponent behind its `e` and makes the number, given the exponent so far. -/
def exponent (negative : Bool) (s : Nat) (e : Int) (c : Cursor) :
    Except Fault (Number × Cursor) :=
  let (minus, c) := match c.rest with
    | b :: _ => if b = 43 then (false, c.advance) else if b = 45 then (true, c.advance)
        else (false, c)
    | [] => (false, c)
  match c.next? with
  | none => .error (c.fault .unfinishedValue)
  | some (b, after) =>
    if !isDigit b then .error (after.fault .invalidNumber)
    else
      let (ds, rest) := digits c
      match exponentDigits 0 0 ds with
      | .inr n => double negative s (clampExponent (if minus then e - n else e + n)) rest
      | .inl count =>
        if s ≠ 0 ∧ !minus then
          .error ⟨.numberOutOfRange, ⟨c.position.line, c.position.column + count⟩⟩
        else .ok (.float (if negative then -0.0 else 0.0), rest)

/-- Reads the digits behind the point and what follows. -/
def fraction (negative : Bool) (s : Nat) (e : Int) (c : Cursor) : Except Fault (Number × Cursor) :=
  let (ds, after) := digits c
  if ds.isEmpty then
    match c.rest with
    | [] => .error (c.faultAhead .unfinishedValue)
    | _ :: _ => .error (c.faultAhead .invalidNumber)
  else
    let (s, left) := accumulate s ds
    let e := e - (ds.length - left : Nat)
    match after.rest with
    | b :: _ =>
      if b = 101 ∨ b = 69 then exponent negative s e after.advance else double negative s e after
    | [] => double negative s e after

/-- A whole number with its sign. Minus zero is a double, and so is what lies below -2^63. -/
def whole (negative : Bool) (s : Nat) : Number :=
  if !negative then .int s
  else if s = 0 ∨ -(s : Int) < Int64.minValue.toInt then .float (-s.toUInt64.toFloat)
  else .int (-(s : Int))

/-- Reads a number behind its sign. -/
def number (negative : Bool) (c : Cursor) : Except Fault (Number × Cursor) := do
  let (ds, c) ← wholePart c
  let (s, left) := accumulate 0 ds
  match c.rest with
  | b :: _ =>
    if b = 46 then fraction negative s left c.advance
    else if b = 101 ∨ b = 69 then exponent negative s left c.advance
    else if left = 0 then return (whole negative s, c)
    else double negative s left c
  | [] => if left = 0 then return (whole negative s, c) else double negative s left c

end RowRelay.Json
