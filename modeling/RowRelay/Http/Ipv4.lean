import RowRelay.Decimal.Read

/-!
# Numerical addresses of hosts

A number of 32 bits, written as the four numbers of its bytes with points between them. When it is
read, each part may be octal or hexadecimal, and the last may stand for all bytes that are left.
-/

set_option autoImplicit false

namespace RowRelay.Http

structure Ipv4 where
  value : UInt32
  deriving DecidableEq, Repr

namespace Ipv4

def render (a : Ipv4) : String :=
  let n := a.value.toNat
  s!"{n / 16777216}.{n / 65536 % 256}.{n / 256 % 256}.{n % 256}"

/-- A part of an address: hexadecimal behind `0x`, octal behind another `0`. Nothing behind `0x` is
zero. -/
def part? : List Char → Option Nat
  | '0' :: 'x' :: cs => if cs.isEmpty then some 0 else Decimal.natural? 16 cs
  | '0' :: c :: cs => Decimal.natural? 8 (c :: cs)
  | cs => Decimal.natural? 10 cs

/-- The parts of a name, without an empty one at the end. -/
def parts (name : List Char) : List (List Char) :=
  let parts := name.splitOn '.'
  if parts.getLast? = some [] then parts.dropLast else parts

/-- Whether the last part of a name is a number or only has digits. Then the name must be a
numerical address. -/
def endsInNumber (name : List Char) : Bool :=
  match (parts name).getLast? with
  | some [] | none => false
  | some part => part.all Char.isDigit || (part? part).isSome

/-- The address with the numbers in front as its first bytes and the last one as the rest. -/
def ofNumbers? (front : List Nat) (last : Nat) : Option Ipv4 :=
  let rest := Nat.pow 256 (4 - front.length)
  if front.length ≤ 3 ∧ front.all (· < 256) ∧ last < rest then
    some ⟨(front.foldl (fun n byte => n * 256 + byte) 0 * rest + last).toUInt32⟩
  else none

/-- The address that a name spells. -/
def ofName? (name : List Char) : Option Ipv4 := do
  let numbers ← (parts name).mapM part?
  let last ← numbers.getLast?
  ofNumbers? numbers.dropLast last

end Ipv4

end RowRelay.Http
