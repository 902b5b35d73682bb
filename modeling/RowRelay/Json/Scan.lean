import RowRelay.Json.Cursor

/-!
# Words and strings

Reading the words `null`, `true`, `false` and the strings of a JSON text. The bytes of a string
are put together first, escapes resolved, and must then spell a text.
-/

set_option autoImplicit false

namespace RowRelay.Json

/-- Reads the bytes of a word one by one. -/
def word : Bytes → Cursor → Except Fault Cursor
  | [], c => .ok c
  | b :: bs, c =>
    match c.next? with
    | none => .error (c.fault .unfinishedValue)
    | some (x, c) => if x = b then word bs c else .error (c.fault .expectedIdent)

/-! ## Escapes -/

def hexValue? (b : UInt8) : Option Nat :=
  if 48 ≤ b ∧ b ≤ 57 then some (b.toNat - 48)
  else if 97 ≤ b ∧ b ≤ 102 then some (b.toNat - 87)
  else if 65 ≤ b ∧ b ≤ 70 then some (b.toNat - 55)
  else none

/-- Reads four hexadecimal digits, all of them before any is judged. -/
def hexQuad (c : Cursor) : Except Fault (Nat × Cursor) :=
  match c.rest with
  | d₁ :: d₂ :: d₃ :: d₄ :: rest =>
    let c : Cursor := ⟨rest, (((c.position.step d₁).step d₂).step d₃).step d₄⟩
    match [d₁, d₂, d₃, d₄].mapM hexValue? with
    | some ds => .ok (ds.foldl (fun n d => n * 16 + d) 0, c)
    | none => .error (c.fault .invalidEscape)
  | short => .error ⟨.unfinishedString, short.foldl Position.step c.position⟩

def isLeading (n : Nat) : Bool := 0xD800 ≤ n && n ≤ 0xDBFF

def isTrailing (n : Nat) : Bool := 0xDC00 ≤ n && n ≤ 0xDFFF

/-- Reads one byte of the mark that must follow a leading surrogate. -/
def surrogateMark (b : UInt8) (c : Cursor) : Except Fault Cursor :=
  match c.next? with
  | none => .error (c.fault .unfinishedString)
  | some (x, c) => if x = b then .ok c else .error (c.fault .unfinishedSurrogate)

/-- Reads the code point behind `\u`; one beyond the first plane is written as two surrogates. -/
def codePoint (c : Cursor) : Except Fault (Char × Cursor) := do
  let (high, c) ← hexQuad c
  if isTrailing high then throw (c.fault .loneSurrogate)
  if !isLeading high then return (Char.ofNat high, c)
  let c ← surrogateMark 92 c
  let c ← surrogateMark 117 c
  let (low, c) ← hexQuad c
  if !isTrailing low then throw (c.fault .loneSurrogate)
  return (Char.ofNat ((high - 0xD800) * 0x400 + (low - 0xDC00) + 0x10000), c)

/-- The character that a one-letter escape stands for. -/
def shortEscape? (b : UInt8) : Option UInt8 :=
  if b = 34 ∨ b = 92 ∨ b = 47 then some b
  else if b = 98 then some 8
  else if b = 102 then some 12
  else if b = 110 then some 10
  else if b = 114 then some 13
  else if b = 116 then some 9
  else none

/-- Reads what follows a backslash, as the bytes it stands for. -/
def escape (c : Cursor) : Except Fault (Bytes × Cursor) :=
  match c.next? with
  | none => .error (c.fault .unfinishedString)
  | some (b, c) =>
    match shortEscape? b with
    | some x => .ok ([x], c)
    | none =>
      if b = 117 then do
        let (char, c) ← codePoint c
        return (Utf8.encodeChar char, c)
      else .error (c.fault .invalidEscape)

/-! ## Strings -/

/-- Reads the bytes of a string up to its closing quote; `seen` holds those read, last first. -/
def stringBytes : Nat → Cursor → (seen : Bytes) → Except Fault (Bytes × Cursor)
  | 0, c, _ => .error (c.fault .unfinishedString)
  | n + 1, c, seen =>
    match c.next? with
    | none => .error (c.fault .unfinishedString)
    | some (b, c) =>
      if b = 34 then .ok (seen.reverse, c)
      else if b = 92 then do
        let (bytes, c) ← escape c
        stringBytes n c (bytes.reverse ++ seen)
      else if b < 32 then .error (c.fault .controlCharacter)
      else stringBytes n c (b :: seen)

/-- Reads a string behind its opening quote. A fault in its bytes is placed by counting back from
the closing quote. -/
def stringBody : Reader String := fun n c => do
  let (bytes, c) ← stringBytes n c []
  match Utf8.decode bytes with
  | .ok cs => return (String.ofList cs, c)
  | .error offset =>
    throw ⟨.invalidUnicode, ⟨c.position.line, c.position.column - (bytes.length - offset)⟩⟩

end RowRelay.Json
