import RowRelay.Decimal.Read
import RowRelay.Setup.Fault
import RowRelay.Text.LowerCase

/-!
# Values of settings

How a value of a setup is taken as a text, a yes or no, or a number. Any scalar can be a text.
Numbers are taken from texts, from yes and no, and from doubles, which are rounded, a half away
from zero, and brought into range. A whole number out of range is refused.
-/

set_option autoImplicit false

namespace RowRelay.Setup

/-- Takes the value of the setting with the given key. -/
abbrev Conversion (α : Type) := (key : String) → Tree → Except Fault α

/-- The fault of a value that is not of the type expected. -/
def Tree.misfit (t : Tree) (expected key : String) : Fault :=
  .wrongType t.describe expected t.origin key

def yes : List String := ["true", "on", "yes"]

def no : List String := ["false", "off", "no"]

/-- The text of a scalar. -/
def Scalar.text? : Scalar → Option String
  | .nil => none
  | .flag b => some (if b then "true" else "false")
  | .int n => some (String.ofList (Json.writeInt n))
  | .float x => some (String.ofList (Decimal.inFull.write x))
  | .text s => some s

def text : Conversion String
  | key, .scalar o v =>
    match v.text? with
    | some s => .ok s
    | none => .error ((Tree.scalar o v).misfit "a string" key)
  | key, t => .error (t.misfit "a string" key)

def flag : Conversion Bool
  | _, .scalar _ (.flag b) => .ok b
  | _, .scalar _ (.int n) => .ok (n != 0)
  | _, .scalar _ (.float x) => .ok (x != 0.0)
  | key, .scalar o (.text s) =>
    let word := Text.lowerCase s
    if word = "1" ∨ word ∈ yes then .ok true
    else if word = "0" ∨ word ∈ no then .ok false
    else .error ((Tree.scalar o (.text word)).misfit "a boolean" key)
  | key, t => .error (t.misfit "a boolean" key)

/-- A whole number between two bounds. `spelled?` reads one from a text. -/
def whole (least greatest : Int) (expected : String) (spelled? : List Char → Option Int) :
    Conversion Int
  | _, .scalar _ (.flag b) => .ok (if b then 1 else 0)
  | key, .scalar o (.int n) =>
    if least ≤ n ∧ n ≤ greatest then .ok n
    else .error ((Tree.scalar o (.int n)).misfit expected key)
  | _, .scalar _ (.float x) => .ok ((Binary64.ofFloat x).round least greatest)
  | key, .scalar o (.text s) =>
    let word := Text.lowerCase s
    if word ∈ yes then .ok 1
    else if word ∈ no then .ok 0
    else match spelled? s.toList with
      | some n => .ok n
      | none => .error ((Tree.scalar o (.text s)).misfit "an integer" key)
  | key, t => .error (t.misfit "an integer" key)

/-- A whole number of 64 bits with a sign. -/
def signed64 : Conversion Int64 := fun key t => do
  let n ← whole Int64.minValue.toInt Int64.maxValue.toInt "an signed 64 bit or less integer"
    (Decimal.signed64? 10) key t
  return .ofInt n

/-- A natural number of 64 bits. -/
def unsigned64 : Conversion UInt64 := fun key t => do
  let n ← whole 0 (UInt64.size - 1) "an unsigned 64 bit or less integer"
    (fun cs => (Decimal.unsigned64? cs).map Int.ofNat) key t
  return n.toNat.toUInt64

/-- A natural number of 32 bits: one of 64 bits first, whose origin is then forgotten. -/
def unsigned32 : Conversion UInt32 := fun key t => do
  let n ← unsigned64 key t
  if n.toNat < UInt32.size then return n.toUInt32
  else
    let digits := String.ofList (Json.writeInt n.toNat)
    throw (.wrongType s!"64-bit unsigned integer `{digits}`" "an unsigned 32 bit integer" none key)

/-- One of a few words, given as a text or as the only key of a table. -/
def choice {α : Type} (name : String) (choices : List (String × α)) : Conversion α := fun key t =>
  let choose (word : String) : Except Fault α :=
    match choices.lookup word with
    | some a => .ok a
    | none => .error (.misshapen (.unknownChoice name word) key)
  match t with
  | .scalar _ (.text word) => choose word
  | .table _ [(word, _)] => choose word
  | _ => .error (.misshapen (.notAChoice name) key)

end RowRelay.Setup
