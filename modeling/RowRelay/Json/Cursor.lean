import RowRelay.Json.Fault
import RowRelay.Text.Utf8

/-!
# Where a reader stands

A cursor is what is left of a text and the position reached. A reader takes a cursor to a value
and the cursor behind it. Readers that call themselves count down a budget; twice the length of
the text and two more suffice, as every second call at the latest takes a byte.
-/

set_option autoImplicit false

namespace RowRelay.Json

/-- The position behind one more byte. -/
def Position.step (p : Position) (b : UInt8) : Position :=
  if b = 10 then ⟨p.line + 1, 0⟩ else ⟨p.line, p.column + 1⟩

structure Cursor where
  rest : Bytes
  position : Position

namespace Cursor

def ofBytes (bs : Bytes) : Cursor :=
  ⟨bs, ⟨1, 0⟩⟩

/-- The next byte and the cursor behind it. -/
def next? (c : Cursor) : Option (UInt8 × Cursor) :=
  match c.rest with
  | [] => none
  | b :: bs => some (b, ⟨bs, c.position.step b⟩)

/-- The cursor behind the next byte, if there is one. -/
def advance (c : Cursor) : Cursor :=
  match c.next? with
  | some (_, c) => c
  | none => c

/-- A fault about what was read. -/
def fault (c : Cursor) (cause : Cause) : Fault :=
  ⟨cause, c.position⟩

/-- A fault about the next byte. -/
def faultAhead (c : Cursor) (cause : Cause) : Fault :=
  ⟨cause, c.advance.position⟩

def skipBlanksFrom : Bytes → Position → Cursor
  | [], p => ⟨[], p⟩
  | b :: bs, p =>
    if b = 32 ∨ b = 10 ∨ b = 9 ∨ b = 13 then skipBlanksFrom bs (p.step b) else ⟨b :: bs, p⟩

/-- The cursor behind spaces, tabs and line ends. -/
def skipBlanks (c : Cursor) : Cursor :=
  skipBlanksFrom c.rest c.position

end Cursor

/-- A reader of values of a type; the number is its budget of calls. -/
abbrev Reader (α : Type) := Nat → Cursor → Except Fault (α × Cursor)

/-- The budget that no reader of the text uses up. -/
def budget (bs : Bytes) : Nat :=
  2 * bs.length + 2

/-- Reads a whole text: a value with nothing but blanks behind it. -/
def readAll {α : Type} (read : Reader α) (bs : Bytes) : Except Fault α := do
  let (value, c) ← read (budget bs) (Cursor.ofBytes bs)
  let c := c.skipBlanks
  if c.rest.isEmpty then return value else throw (c.faultAhead .trailingCharacters)

end RowRelay.Json
