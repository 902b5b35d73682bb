import RowRelay.Text.Blank
import RowRelay.Text.Utf8

/-!
# Base64

The standard alphabet with padding. `encode` writes bytes in groups of four symbols; `decode`
reads exactly what `encode` writes and says of everything else where it first goes wrong. The
transport form of a payload may have blanks around it, which `decodeText` takes off.
-/

set_option autoImplicit false

namespace RowRelay.Base64

/-! ## The alphabet -/

/-- The sixty-four symbols, in the order of their values. -/
def alphabet : Bytes :=
  Bytes.ofAscii "ABCDEFGHIJKLMNOPQRSTUVWXYZabcdefghijklmnopqrstuvwxyz0123456789+/"

/-- The sign that fills up the last group. -/
def pad : UInt8 := 61

/-- The symbol of a value below sixty-four. -/
def symbol (v : Nat) : UInt8 :=
  alphabet.getD v pad

/-- The value of a symbol. -/
def value? (b : UInt8) : Option Nat :=
  if 65 ≤ b ∧ b ≤ 90 then some (b.toNat - 65)
  else if 97 ≤ b ∧ b ≤ 122 then some (b.toNat - 71)
  else if 48 ≤ b ∧ b ≤ 57 then some (b.toNat + 4)
  else if b = 43 then some 62
  else if b = 47 then some 63
  else none

/-! ## Writing -/

/-- The padded encoding of the bytes. -/
def encode : Bytes → Bytes
  | [] => []
  | [a] =>
    [symbol (a.toNat / 4), symbol (a.toNat % 4 * 16), pad, pad]
  | [a, b] =>
    [symbol (a.toNat / 4), symbol (a.toNat % 4 * 16 + b.toNat / 16),
      symbol (b.toNat % 16 * 4), pad]
  | a :: b :: c :: rest =>
    symbol (a.toNat / 4) :: symbol (a.toNat % 4 * 16 + b.toNat / 16) ::
      symbol (b.toNat % 16 * 4 + c.toNat / 64) :: symbol (c.toNat % 64) :: encode rest

/-! ## Reading -/

/-- Why a text is not an encoding. Offsets count bytes from its start. -/
inductive Error where
  | invalidSymbol (byte : UInt8) (offset : Nat)
  | invalidLength (length : Nat)
  | invalidLastSymbol (byte : UInt8) (offset : Nat)
  | invalidPadding
  deriving DecidableEq, Repr

def Error.message : Error → String
  | .invalidSymbol byte offset => s!"Invalid symbol {byte.toNat}, offset {offset}."
  | .invalidLength length => s!"Invalid input length: {length}"
  | .invalidLastSymbol byte offset => s!"Invalid last symbol {byte.toNat}, offset {offset}."
  | .invalidPadding => "Invalid padding"

/-- The symbols of the last group with their values, and the place of its first pad. -/
structure Group where
  symbols : List (UInt8 × Nat)
  firstPad : Option Nat
  pads : Nat

/-- Reads the last group, of at most four bytes, `i` of which came before. -/
def lastGroup (start : Nat) : (i : Nat) → Group → Bytes → Except Error Group
  | _, g, [] => .ok g
  | i, g, b :: bs =>
    if b = pad then
      if i < 2 then .error (.invalidSymbol pad (start + i))
      else lastGroup start (i + 1) ⟨g.symbols, g.firstPad <|> some i, g.pads + 1⟩ bs
    else
      match g.firstPad with
      | some first => .error (.invalidSymbol pad (start + first))
      | none =>
        match value? b with
        | none => .error (.invalidSymbol b (start + i))
        | some v => lastGroup start (i + 1) ⟨g.symbols ++ [(b, v)], none, g.pads⟩ bs

/-- The bytes of the last group. The bits that its last symbol has over must be zero. -/
def Group.bytes (g : Group) (start : Nat) : Except Error Bytes :=
  if (g.symbols.length + g.pads) % 4 ≠ 0 ∧ 2 ≤ g.symbols.length then .error .invalidPadding
  else
    match g.symbols with
    | [] => .ok []
    | [_] => .error (.invalidLength (start + 1))
    | [(_, u), (b, v)] =>
      if v % 16 ≠ 0 then .error (.invalidLastSymbol b (start + 1))
      else .ok [(u * 4 + v / 16).toUInt8]
    | [(_, u), (_, v), (b, w)] =>
      if w % 4 ≠ 0 then .error (.invalidLastSymbol b (start + 2))
      else .ok [(u * 4 + v / 16).toUInt8, (v % 16 * 16 + w / 4).toUInt8]
    | (_, u) :: (_, v) :: (_, w) :: (_, x) :: _ =>
      .ok [(u * 4 + v / 16).toUInt8, (v % 16 * 16 + w / 4).toUInt8, (w % 4 * 64 + x).toUInt8]

/-- The value of a symbol at an offset where no pad may stand. -/
def value (offset : Nat) (b : UInt8) : Except Error Nat :=
  match value? b with
  | some v => .ok v
  | none => .error (.invalidSymbol b offset)

/-- Reads groups of four from the offset `start` on; the last group has one to four bytes. -/
def decodeFrom (start : Nat) : Bytes → Except Error Bytes
  | a :: b :: c :: d :: e :: rest => do
    let u ← value start a
    let v ← value (start + 1) b
    let w ← value (start + 2) c
    let x ← value (start + 3) d
    let bytes ← decodeFrom (start + 4) (e :: rest)
    return (u * 4 + v / 16).toUInt8 :: (v % 16 * 16 + w / 4).toUInt8 ::
      (w % 4 * 64 + x).toUInt8 :: bytes
  | last => do (← lastGroup start 0 ⟨[], none, 0⟩ last).bytes start

/-- A byte too many at the end is reported first when it is not even a symbol. -/
def decode (bs : Bytes) : Except Error Bytes :=
  match bs.getLast? with
  | some b =>
    if bs.length % 4 = 1 ∧ b ≠ pad ∧ (value? b).isNone then
      .error (.invalidSymbol b (bs.length - 1))
    else decodeFrom 0 bs
  | none => .ok []

/-- Decodes a text, without the blanks around it. -/
def decodeText (s : String) : Except Error Bytes :=
  decode (Utf8.encode (Text.trim s.toList))

end RowRelay.Base64
