import RowRelay.Decimal.Read

/-!
# Longer numerical addresses

Eight groups of 16 bits in hexadecimal digits, with colons between them. Two colons in a row stand
for as many zeros as are missing; when an address is written, they stand for the longest row of
zeros. The last two groups may be read as four decimal numbers.
-/

set_option autoImplicit false

namespace RowRelay.Http

structure Ipv6 where
  groups : List UInt16
  complete : groups.length = 8
  deriving DecidableEq, Repr

namespace Ipv6

/-! ## Writing -/

def renderGroups (groups : List UInt16) : String :=
  ":".intercalate (groups.map fun g => String.ofList (Nat.toDigits 16 g.toNat))

/-- Where the first of the longest rows of zeros begins, and how many they are. -/
def longestGap (groups : List UInt16) : Nat × Nat :=
  (List.range groups.length).foldl (fun gap i =>
    let zeros := ((groups.drop i).takeWhile (· == 0)).length
    if gap.2 < zeros then (i, zeros) else gap) (0, 0)

def render (a : Ipv6) : String :=
  let (start, zeros) := longestGap a.groups
  if zeros < 2 then renderGroups a.groups
  else renderGroups (a.groups.take start) ++ "::" ++ renderGroups (a.groups.drop (start + zeros))

/-! ## Reading -/

def group? (cs : List Char) : Option UInt16 :=
  if cs.length ≤ 4 then (Decimal.natural? 16 cs).map Nat.toUInt16 else none

/-- A decimal number below 256 without zeros in front. -/
def byte? (cs : List Char) : Option Nat := do
  let n ← Decimal.natural? 10 cs
  if n < 256 ∧ (cs.head? ≠ some '0' ∨ cs.length = 1) then some n else none

/-- The last two groups as four decimal numbers. -/
def decimalTail? (cs : List Char) : Option (List UInt16) := do
  match ← (cs.splitOn '.').mapM byte? with
  | [a, b, c, d] => some [(a * 256 + b).toUInt16, (c * 256 + d).toUInt16]
  | _ => none

/-- The groups between colons, of which there may be none. -/
def groups? (cs : List Char) : Option (List UInt16) :=
  if cs.isEmpty then some [] else (cs.splitOn ':').mapM group?

/-- The groups at the end of an address. -/
def finalGroups? (cs : List Char) : Option (List UInt16) := do
  let parts := cs.splitOn ':'
  let last := parts.getLast?.getD []
  if last.contains '.' then
    return (← parts.dropLast.mapM group?) ++ (← decimalTail? last)
  else groups? cs

/-- What stands before and behind the first two colons in a row. -/
def cutAtGap : List Char → Option (List Char × List Char)
  | ':' :: ':' :: cs => some ([], cs)
  | c :: cs => (cutAtGap cs).map fun (before, after) => (c :: before, after)
  | [] => none

/-- The address with these groups, if they are eight. -/
def ofGroups? (groups : List UInt16) : Option Ipv6 :=
  if h : groups.length = 8 then some ⟨groups, h⟩ else none

/-- The address that a text spells. A gap stands for one group at least. -/
def ofText? (cs : List Char) : Option Ipv6 := do
  match cutAtGap cs with
  | none => ofGroups? (← finalGroups? cs)
  | some (before, after) =>
    let front ← groups? before
    let back ← finalGroups? after
    let missing := 8 - (front.length + back.length)
    if missing = 0 then none
    else ofGroups? (front ++ List.replicate missing 0 ++ back)

end Ipv6

end RowRelay.Http
