import RowRelay.Decimal.Read
import RowRelay.Yaml.Fold
import RowRelay.Yaml.Glyph

/-!
# Quoted scalars

Between single quotes every character stands for itself, and two quotes for one. Between double
quotes a backslash begins an escape. The lines of a quoted scalar fold, and must be indented as far
as what surrounds them.
-/

set_option autoImplicit false

namespace RowRelay.Yaml

/-- Whether the content of a line begins here where it must not. -/
def isMisplaced (indent : Int) (gs : List Glyph) : Bool :=
  (here gs).leading && ((here gs).isBefore indent || endsDocument gs)

/-- Whether a gap is a tab in the indentation. -/
def isTabbed (indent : Int) (f : Fold) (g : Glyph) : Bool :=
  g.char == '\t' && (f.joined || f.breaks != 0) && g.isBefore indent

/-! ## Single quotes -/

/-- Reads up to behind the closing quote. -/
def singleQuoted (indent : Int) : Fold → List Glyph → Option (List Char × List Glyph)
  | _, [] => none
  | f, g :: gs =>
    let c := g.char
    if c = '\x00' then none
    else if c = '\n' then singleQuoted indent f.newline gs
    else if isGap c then
      if isTabbed indent f g then none else singleQuoted indent (f.gap c) gs
    else if isMisplaced indent (g :: gs) then none
    else if c = '\'' then
      match gs with
      | ⟨'\'', _, _, _, _⟩ :: rest => singleQuoted indent (f.push c) rest
      | _ => some (f.settle.text, gs)
    else singleQuoted indent (f.push c) gs

/-! ## Double quotes -/

/-- The character that a letter after a backslash stands for. -/
def escaped? (c : Char) : Option Char :=
  [('0', '\x00'), ('a', '\x07'), ('b', '\x08'), ('t', '\t'), ('\t', '\t'), ('n', '\n'),
    ('v', '\x0b'), ('f', '\x0c'), ('r', '\r'), ('e', '\x1b'), (' ', ' '), ('"', '"'), ('/', '/'),
    ('\\', '\\'), ('N', '\u0085'), ('_', '\u00a0'), ('L', '\u2028'), ('P', '\u2029')].lookup c

/-- How many hexadecimal digits follow a letter after a backslash. -/
def escapeDigits? (c : Char) : Option Nat :=
  [('x', 2), ('u', 4), ('U', 8)].lookup c

/-- The character with the code point that digits spell. -/
def codePoint? (digits : List Char) : Option Char := do
  let n ← Decimal.natural? 16 digits
  if n.isValidChar then some (Char.ofNat n) else none

/-- What has been read of an escape: nothing, the backslash, or digits, last first, of which so
many are still to come. -/
inductive Escape where
  | no
  | begun
  | digits (read : List Char) (left : Nat)

/-- Reads up to behind the closing quote. Right behind an escaped end of line the quote may stand
at the beginning of the line, whatever surrounds it. -/
def doubleQuoted (indent : Int) : Escape → Fold → List Glyph → Option (List Char × List Glyph)
  | _, _, [] => none
  | .digits read left, f, g :: gs =>
    match left with
    | 0 | 1 => do
      let x ← codePoint? (g.char :: read).reverse
      doubleQuoted indent .no (f.push x) gs
    | left + 1 => doubleQuoted indent (.digits (g.char :: read) left) f gs
  | .begun, f, g :: gs =>
    if g.char = '\n' then doubleQuoted indent .no f.join gs
    else match escaped? g.char, escapeDigits? g.char with
      | some x, _ => doubleQuoted indent .no (f.push x) gs
      | none, some n => doubleQuoted indent (.digits [] n) f gs
      | none, none => none
  | .no, f, g :: gs =>
    let c := g.char
    if c = '\x00' then none
    else if c = '\n' then doubleQuoted indent .no f.newline gs
    else if isGap c then
      if isTabbed indent f g then none else doubleQuoted indent .no (f.gap c) gs
    else if c = '"' && f.joined && f.breaks = 0 && g.column = 0 then some (f.settle.text, gs)
    else if isMisplaced indent (g :: gs) then none
    else if c = '"' then some (f.settle.text, gs)
    else if c = '\\' then doubleQuoted indent .begun f gs
    else doubleQuoted indent .no (f.push c) gs

/-! ## What may follow -/

/-- Reads a quoted scalar from its quote on, and passes over gaps behind it. There may follow the
end of the line, inside brackets a mark, or the colon that makes a key of the scalar, outside
brackets only on the line on which it began. -/
def quoted? (inFlow : Bool) (indent : Int) (gs : List Glyph) :
    Option (List Char × List Glyph) := do
  let (cs, rest) ← if peek gs = '\'' then singleQuoted indent {} (gs.drop 1)
    else doubleQuoted indent .no {} (gs.drop 1)
  let after ← passGaps rest
  let next := here after.rest
  let mayFollow := endsLine next.char ||
    (inFlow && [',', '\x7d', ']'].contains next.char) ||
    (next.char == ':' && (inFlow || next.line == (here gs).line))
  if mayFollow then return (cs, after.rest) else none

end RowRelay.Yaml
