import RowRelay.Bytes

/-!
# UTF-8

`encode` writes characters as bytes. `decode` reads bytes back, one at a time, and reports where
the first sequence begins that spells no character. `decodeLossy` never fails: it puts U+FFFD in
place of each longest piece that could still have become a character.
-/

set_option autoImplicit false

namespace RowRelay.Utf8

/-! ## Writing -/

/-- The one to four bytes of a character. -/
def encodeChar (c : Char) : Bytes :=
  let n := c.toNat
  if n < 0x80 then [n.toUInt8]
  else if n < 0x800 then [(0xC0 + n / 64).toUInt8, (0x80 + n % 64).toUInt8]
  else if n < 0x10000 then
    [(0xE0 + n / 4096).toUInt8, (0x80 + n / 64 % 64).toUInt8, (0x80 + n % 64).toUInt8]
  else
    [(0xF0 + n / 262144).toUInt8, (0x80 + n / 4096 % 64).toUInt8, (0x80 + n / 64 % 64).toUInt8,
      (0x80 + n % 64).toUInt8]

def encode (cs : List Char) : Bytes :=
  cs.flatMap encodeChar

/-- The bytes of a text. -/
def ofString (s : String) : Bytes :=
  encode s.toList

/-! ## Reading -/

/-- A character under way: the bits read so far, how many bytes follow the next one, and the
range that the next byte must lie in. -/
structure Pending where
  bits : Nat
  after : Nat
  least : UInt8
  greatest : UInt8

/-- What a byte can mean where a character begins. -/
inductive Lead where
  | single (c : Char)
  | more (p : Pending)
  | bad

/-- The ranges of the second byte shut out the longer spellings of short characters, the
surrogates, and what lies beyond U+10FFFF. -/
def lead (b : UInt8) : Lead :=
  if b < 0x80 then .single (Char.ofNat b.toNat)
  else if b < 0xC2 then .bad
  else if b < 0xE0 then .more ⟨b.toNat % 32, 0, 0x80, 0xBF⟩
  else if b = 0xE0 then .more ⟨0, 1, 0xA0, 0xBF⟩
  else if b = 0xED then .more ⟨13, 1, 0x80, 0x9F⟩
  else if b < 0xF0 then .more ⟨b.toNat % 16, 1, 0x80, 0xBF⟩
  else if b = 0xF0 then .more ⟨0, 2, 0x90, 0xBF⟩
  else if b < 0xF4 then .more ⟨b.toNat % 8, 2, 0x80, 0xBF⟩
  else if b = 0xF4 then .more ⟨4, 2, 0x80, 0x8F⟩
  else .bad

/-- What a byte makes of a character under way: the finished character, the next stage, or
nothing when the byte is out of range. -/
def Pending.push (p : Pending) (b : UInt8) : Option (Char ⊕ Pending) :=
  if p.least ≤ b ∧ b ≤ p.greatest then
    let bits := p.bits * 64 + b.toNat % 64
    match p.after with
    | 0 => some (.inl (Char.ofNat bits))
    | after + 1 => some (.inr ⟨bits, after, 0x80, 0xBF⟩)
  else none

/-- Reads on from between characters (`none`) or within one. `start` is the offset of the
character under way, `offset` that of the next byte, `seen` the characters read, last first. -/
def decodeFrom : Option Pending → (start offset : Nat) → (seen : List Char) → Bytes →
    Except Nat (List Char)
  | none, _, _, seen, [] => .ok seen.reverse
  | some _, start, _, _, [] => .error start
  | none, _, offset, seen, b :: bs =>
    match lead b with
    | .single c => decodeFrom none offset (offset + 1) (c :: seen) bs
    | .more p => decodeFrom (some p) offset (offset + 1) seen bs
    | .bad => .error offset
  | some p, start, offset, seen, b :: bs =>
    match p.push b with
    | some (.inl c) => decodeFrom none offset (offset + 1) (c :: seen) bs
    | some (.inr p) => decodeFrom (some p) start (offset + 1) seen bs
    | none => .error start

/-- The characters of the bytes, or the offset of the first sequence that spells none. -/
def decode (bs : Bytes) : Except Nat (List Char) :=
  decodeFrom none 0 0 [] bs

/-- The character that stands for bytes that spell none. -/
def replacement : Char := '\uFFFD'

def decodeLossyFrom : Option Pending → Bytes → List Char
  | none, [] => []
  | some _, [] => [replacement]
  | none, b :: bs =>
    match lead b with
    | .single c => c :: decodeLossyFrom none bs
    | .more p => decodeLossyFrom (some p) bs
    | .bad => replacement :: decodeLossyFrom none bs
  | some p, b :: bs =>
    match p.push b with
    | some (.inl c) => c :: decodeLossyFrom none bs
    | some (.inr p) => decodeLossyFrom (some p) bs
    | none =>
      -- the byte that broke off a character may begin another
      match lead b with
      | .single c => replacement :: c :: decodeLossyFrom none bs
      | .more p => replacement :: decodeLossyFrom (some p) bs
      | .bad => replacement :: replacement :: decodeLossyFrom none bs

/-- The text of the bytes, with U+FFFD for every piece that spells no character. -/
def decodeLossy (bs : Bytes) : String :=
  String.ofList (decodeLossyFrom none bs)

end RowRelay.Utf8
