import RowRelay.Yaml.Fold
import RowRelay.Yaml.Glyph

/-!
# Plain scalars

A scalar without quotes goes on until a comment, a colon that ends a word, inside brackets one of
their marks, or outside them a line that is not indented far enough.
-/

set_option autoImplicit false

namespace RowRelay.Yaml

/-- Whether a character can stand in a plain scalar, given the one behind it. -/
def isPlain (inFlow : Bool) (c next : Char) : Bool :=
  if c = ':' then !(endsWord next || (inFlow && isFlowMark next))
  else !(inFlow && isFlowMark c)

/-- Where the reading of a plain scalar stands. -/
inductive PlainPlace where
  | start
  | inWord
  | afterWord
  /-- In the gaps and the comment of a line that holds nothing more. -/
  | lineOver
  deriving DecidableEq

/-- Reads a plain scalar and passes over the gaps behind it. Outside brackets its lines must be
indented by `indent` columns. -/
def plain (inFlow : Bool) (indent : Int) : PlainPlace → Fold → List Glyph →
    Option (List Char × List Glyph)
  | _, f, [] => some (f.text, [])
  | place, f, g :: gs =>
    let c := g.char
    if c = '\x00' then some (f.text, g :: gs)
    else if c = '\n' then
      plain inFlow indent .afterWord (if g.leading then f.newline else f.endComment) gs
    else if place = .lineOver then plain inFlow indent .lineOver f gs
    else if isGap c then
      if c = '\t' && g.leading && g.isBefore indent then
        if lineIsOver gs then plain inFlow indent .lineOver f gs else none
      else plain inFlow indent .afterWord (if g.leading then f else f.gap c) gs
    else if place = .afterWord && !inFlow && g.isBefore indent then some (f.text, g :: gs)
    else if place != .inWord && (endsDocument (g :: gs) || c = '#') then some (f.text, g :: gs)
    else if place != .inWord && inFlow && c = '-' && isFlowMark (peek gs) then none
    else if isPlain inFlow c (peek gs) then plain inFlow indent .inWord (f.push c) gs
    else some (f.text, g :: gs)

/-- Reads a plain scalar inside a collection at column `indent`. There must be something. -/
def plain? (inFlow : Bool) (indent : Int) (gs : List Glyph) :
    Option (List Char × List Glyph) := do
  if inFlow && (here gs).isBefore (indent + 1) then none
  else
    let (cs, rest) ← plain inFlow (indent + 1) .start {} gs
    if cs.isEmpty then none else return (cs, rest)

end RowRelay.Yaml
