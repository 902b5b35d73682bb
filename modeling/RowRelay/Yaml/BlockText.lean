import RowRelay.Decimal.Read
import RowRelay.Yaml.Glyph

/-!
# Blocks of text

A scalar after `|` or `>` is the block of lines below that are indented beyond what surrounds it.
The header may say by how many columns, and what becomes of the ends of lines behind the last line
of text: all but one are dropped, all of them (`-`), or none (`+`).
-/

set_option autoImplicit false

namespace RowRelay.Yaml

/-! ## Headers -/

/-- What becomes of the ends of lines behind the text. -/
inductive Chomp where
  | strip
  | clip
  | keep
  deriving DecidableEq

/-- What the header of a block says. -/
structure BlockHeader where
  chomp : Chomp := .clip
  width : Option Nat := none

namespace BlockHeader

/-- Takes what may say how the block ends. -/
def takeChomp (h : BlockHeader) (gs : List Glyph) : BlockHeader × List Glyph :=
  match peek gs with
  | '+' => ({ h with chomp := .keep }, gs.drop 1)
  | '-' => ({ h with chomp := .strip }, gs.drop 1)
  | _ => (h, gs)

/-- Takes what may say how far the block is indented, which must not be zero. -/
def takeWidth (h : BlockHeader) (gs : List Glyph) : Option (BlockHeader × List Glyph) :=
  match Decimal.digit? (peek gs) with
  | none => some (h, gs)
  | some 0 => none
  | some n => some ({ h with width := some n }, gs.drop 1)

/-- Reads the two in either order. -/
def read (gs : List Glyph) : Option (BlockHeader × List Glyph) := do
  let (h, rest) := takeChomp {} gs
  let (h, rest) ← h.takeWidth rest
  return if h.chomp = .clip then h.takeChomp rest else (h, rest)

end BlockHeader

/-! ## Indentation -/

/-- Passes over empty lines and over the indentation of the first other line, of `width` columns
at most, and counts the lines. -/
def passIndent (width : Nat) : (lines : Nat) → List Glyph → Nat × List Glyph
  | lines, [] => (lines, [])
  | lines, g :: gs =>
    if g.char = ' ' && g.column < width then passIndent width lines gs
    else if g.char = '\n' then passIndent width (lines + 1) gs
    else (lines, g :: gs)

/-- The width of the indentation, which is that of the widest line up to the first with text. -/
def detectWidth : (least : Nat) → List Glyph → Nat
  | least, [] => least
  | least, g :: gs =>
    if g.char = ' ' then detectWidth least gs
    else if g.char = '\n' then detectWidth (max least g.column) gs
    else max least g.column

/-! ## The text -/

/-- A block under way: what is read, last first; whether there was a line, and whether it began
with a gap; whether the end of that line was read; and how many empty lines came since. -/
structure BlockRead where
  read : List Char := []
  last : Option Bool := none
  ended : Bool := false
  empties : Nat

/-- Takes a line. In a folded block the end of a line counts as a space between two lines that
begin without a gap. -/
def BlockRead.line (b : BlockRead) (folded : Bool) (line : List Glyph) : BlockRead :=
  let gap := isGap (peek line)
  let ends := match b.last with
    | none => List.replicate b.empties '\n'
    | some before =>
      if folded && !before && !gap then
        if b.empties = 0 then [' '] else List.replicate b.empties '\n'
      else List.replicate (b.empties + 1) '\n'
  { read := (chars line).reverse ++ (ends ++ b.read), last := some gap, empties := 0 }

/-- Reads the lines of a block; `n` bounds their number. -/
def blockLines (folded : Bool) (width : Nat) : (n : Nat) → BlockRead → List Glyph →
    BlockRead × List Glyph
  | 0, b, gs => (b, gs)
  | n + 1, b, gs =>
    let stops := (here gs).column != width || peek gs == '\x00' || (width == 0 && isMarker gs)
    if stops then (b, gs)
    else
      let (line, rest) := spanChars (!endsLine ·) gs
      let b := b.line folded line
      if peek rest = '\x00' then (b, rest)
      else
        let (empties, rest) := passIndent width 0 (rest.drop 1)
        blockLines folded width n { b with ended := true, empties } rest

/-- The text of a block of which `next` is left. A line that the text of the document cuts off
counts as one with its end, also if it holds nothing but the indentation. -/
def BlockRead.text (b : BlockRead) (chomp : Chomp) (width : Nat) (next : Glyph) : List Char :=
  let cut := next.char == '\x00' && max width 1 ≤ next.column
  let ends := (if b.ended then ['\n'] else []) ++ (if cut then ['\n'] else [])
  b.read.reverse ++ match chomp with
    | .strip => []
    | .clip => ends
    | .keep => ends ++ List.replicate b.empties '\n'

/-- The text of a block in which the document ends before any line, behind so many empty ones.
`begun` says whether the line of the header has ended. -/
def emptyBlock (chomp : Chomp) (begun : Bool) (empties : Nat) : List Char :=
  match chomp with
  | .strip => []
  | .clip => if begun then ['\n'] else []
  | .keep => if begun then List.replicate (max empties 1) '\n' else []

/-- Reads a block of text from its `|` or `>` on, inside a collection at column `indent`. -/
def blockText? (indent : Int) (gs : List Glyph) : Option (List Char × List Glyph) := do
  let (header, rest) ← BlockHeader.read (gs.drop 1)
  let after ← passGaps rest
  if !endsLine (peek after.rest) then none
  else
    let body := if peek after.rest = '\n' then after.rest.drop 1 else after.rest
    let width := match header.width with
      | some n => (max indent 0).toNat + n
      | none => detectWidth (indent + 1).toNat body
    let (empties, lines) := passIndent width 0 body
    let first := here lines
    if peek body = '\t' then none
    else if first.char = '\x00' then
      return (emptyBlock header.chomp (first.line != (here gs).line) empties, lines)
    else if first.column < width && !first.isBefore (indent + 1) then none
    else
      let (b, rest) := blockLines (peek gs == '>') width gs.length { empties } lines
      return (b.text header.chomp width (here rest), rest)

end RowRelay.Yaml
