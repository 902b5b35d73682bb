import RowRelay.Decimal.Read
import RowRelay.Text.Utf8

/-!
# Escapes

What an address cannot hold as it is stands there as the bytes of its UTF-8, each in two hexadecimal
digits behind `%`.
-/

set_option autoImplicit false

namespace RowRelay.Http

/-- A byte in two hexadecimal digits behind `%`. -/
def escapeByte (b : UInt8) : List Char :=
  let digit (n : Nat) : Char := (Nat.digitChar n).toUpper
  ['%', digit (b.toNat / 16), digit (b.toNat % 16)]

/-- Escapes the control characters, what lies beyond ASCII, and the marks given. -/
def escape (marks : List Char) (cs : List Char) : List Char :=
  cs.flatMap fun c =>
    if c < ' ' || '~' < c || marks.contains c then (Utf8.encodeChar c).flatMap escapeByte else [c]

/-- The bytes that a text with escapes stands for. A `%` that no two digits follow is one itself. -/
def unescape : List Char → Bytes
  | [] => []
  | [c] => Utf8.encodeChar c
  | [c, d] => Utf8.encodeChar c ++ Utf8.encodeChar d
  | c :: d :: e :: cs =>
    match if c = '%' then Decimal.natural? 16 [d, e] else none with
    | some n => n.toUInt8 :: unescape cs
    | none => Utf8.encodeChar c ++ unescape (d :: e :: cs)

/-- The text that a text with escapes stands for. -/
def unescaped? (cs : List Char) : Option (List Char) :=
  (Utf8.decode (unescape cs)).toOption

/-! ## Marks to be escaped -/

def fragmentMarks : List Char := " \"<>`".toList

def pathMarks : List Char := fragmentMarks ++ "#?\x7b\x7d".toList

/-- The marks of names and passwords of users. -/
def userMarks : List Char := pathMarks ++ "/:;=@[\\]^|".toList

def queryMarks : List Char := " \"#<>".toList

end RowRelay.Http
