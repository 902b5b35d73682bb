import RowRelay.Decimal.Style
import RowRelay.Json.Value

/-!
# Writing JSON

The compact form: no blanks, members in their order, escapes only where the grammar asks for them.
-/

set_option autoImplicit false

namespace RowRelay.Json

/-- A double is written in full while its first digit has an exponent from -5 to 15, and a whole
one keeps a zero after the point. -/
def floatStyle : Decimal.Style := ⟨some (-5, 15), ".0"⟩

def writeInt (n : Int) : List Char :=
  if n < 0 then '-' :: Nat.toDigits 10 n.natAbs else Nat.toDigits 10 n.natAbs

def Number.write : Number → List Char
  | .int n => writeInt n
  | .float x => floatStyle.write x

/-- A character inside quotes: the quote, the backslash and the control characters are escaped. -/
def writeChar (c : Char) : List Char :=
  if c = '"' ∨ c = '\\' then ['\\', c]
  else if c = '\n' then ['\\', 'n']
  else if c = '\r' then ['\\', 'r']
  else if c = '\t' then ['\\', 't']
  else if c = '\x08' then ['\\', 'b']
  else if c = '\x0c' then ['\\', 'f']
  else if c < ' ' then
    ['\\', 'u', '0', '0', Nat.digitChar (c.toNat / 16), Nat.digitChar (c.toNat % 16)]
  else [c]

def writeString (s : String) : List Char :=
  '"' :: s.toList.flatMap writeChar ++ ['"']

mutual

/-- The compact text of a value. -/
def Value.write : Value → List Char
  | .null => "null".toList
  | .bool true => "true".toList
  | .bool false => "false".toList
  | .number n => n.write
  | .string s => writeString s
  | .array vs => '[' :: writeElements vs ++ [']']
  | .object members => '\x7b' :: writeMembers members ++ ['\x7d']

/-- The elements with commas between them. -/
def writeElements : List Value → List Char
  | [] => []
  | [v] => v.write
  | v :: w :: rest => v.write ++ ',' :: writeElements (w :: rest)

/-- The members with commas between them. -/
def writeMembers : List (String × Value) → List Char
  | [] => []
  | [(k, v)] => writeString k ++ ':' :: v.write
  | (k, v) :: m :: rest => writeString k ++ ':' :: v.write ++ ',' :: writeMembers (m :: rest)

end

/-- The compact text of a value. -/
def Value.render (v : Value) : String :=
  String.ofList v.write

end RowRelay.Json
