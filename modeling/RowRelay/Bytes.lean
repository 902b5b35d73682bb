/-!
# Byte strings

Payloads, stored keys and bodies are lists of bytes. This module holds the big-endian form of a
64-bit word, the form in which stored keys begin, and the way back.
-/

set_option autoImplicit false

namespace RowRelay

/-- A string of bytes. -/
abbrev Bytes := List UInt8

namespace Bytes

/-- The eight bytes of a word, most significant first. -/
def ofWord (w : UInt64) : Bytes :=
  [56, 48, 40, 32, 24, 16, 8, 0].map fun (shift : UInt64) => (w >>> shift).toUInt8

/-- The word that the first eight bytes spell, when there are eight. -/
def word? : Bytes → Option UInt64
  | a :: b :: c :: d :: e :: f :: g :: h :: _ =>
    some ([a, b, c, d, e, f, g, h].foldl (fun w x => (w <<< 8) ||| x.toUInt64) 0)
  | _ => none

/-- The bytes of an ASCII text. -/
def ofAscii (s : String) : Bytes :=
  s.toList.map fun c => c.toNat.toUInt8

end Bytes

end RowRelay
