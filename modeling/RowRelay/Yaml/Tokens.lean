import RowRelay.Yaml.BlockText
import RowRelay.Yaml.Layout
import RowRelay.Yaml.Plain
import RowRelay.Yaml.Quoted
import RowRelay.Yaml.Tag

/-!
# The tokens of a text

`tokens?` reads the tokens of a text one after another, each by its first characters. The order in
which a character is tried as one mark or another decides what it means.
-/

set_option autoImplicit false

namespace RowRelay.Yaml.Layout

/-! ## Brackets -/

/-- Reads an opening bracket. -/
def openBracket (l : Layout) (isMapping : Bool) : Option Layout := do
  let l := l.mayBeKey.rollPart
  if l.depth = maxDepth then none
  else
    let l := { l with keys := none :: l.keys }.allowKey true
    let l :=
      if isMapping then { l with inMapping := true } else { l with pairs := false :: l.pairs }
    return (← (l.drop 1).passGaps).push (if isMapping then .flowMapping else .flowSequence)

/-- Reads a closing bracket. -/
def closeBracket (l : Layout) (isMapping : Bool) : Option Layout := do
  let l ← l.noKey
  let l := if l.inFlow then { l with keys := l.keys.drop 1 } else l
  let l := l.allowKey false
  let l := if isMapping then l else { l.endPair with pairs := l.pairs.drop 1 }
  let l ← (l.drop 1).passGaps
  let l := if l.inFlow then { l with adjacent := some l.glyph.offset } else l
  return l.push (if isMapping then .flowMappingEnd else .flowSequenceEnd)

/-- Reads a comma. -/
def comma (l : Layout) : Option Layout := do
  let l := ((← l.noKey).allowKey true).endPair
  return (← (l.drop 1).passGaps).push .flowEntry

/-! ## Dashes, question marks and colons -/

/-- Reads the dash of an entry. No second dash may follow behind a tab, and no mark of another line
may stand before the first entry of all. -/
def dash (l : Layout) : Option Layout := do
  let misplaced := match l.tokens.back? with
    | some t => t.isOutermostMark && l.glyph.column == 0 && decide (-1 < l.indent)
    | none => false
  if l.inFlow || !l.keyAllowed || misplaced then none
  else
    let after ← Yaml.passGaps (l.rest.drop 1)
    if after.tab && peek after.rest = '-' && endsWord (peekNext after.rest) then none
    else
      let l := { l.rollHere .blockSequence with rest := after.rest }
      let c := peek after.rest
      let l := if c = '\n' || isFlowMark c then l.rollPart else l
      return ((← l.noKey).allowKey true).push .blockEntry

/-- Passes over spaces, ends of lines and comments. -/
def skipSpaces : (inComment : Bool) → List Glyph → List Glyph
  | _, [] => []
  | inComment, g :: gs =>
    if g.char = ' ' then skipSpaces inComment gs
    else if g.char = '\n' then skipSpaces false gs
    else if g.char = '\x00' then g :: gs
    else if inComment || g.char = '#' then skipSpaces true gs
    else g :: gs

/-- Reads the gap behind a question mark, which begins with a space or the end of the line and has
no tab at its end. -/
def passQuestion (gs : List Glyph) : Option (List Glyph) :=
  let rest := skipSpaces false gs
  if (peek gs = ' ' || peek gs = '\n') && peek rest != '\t' then some rest else none

/-- Reads the question mark of a key. -/
def question (l : Layout) : Option Layout := do
  if !l.inFlow && !l.keyAllowed then none
  else
    let l := if l.inFlow then { l with inMapping := true } else l.rollHere .blockMapping
    let l := (← l.noKey).allowKey (!l.inFlow)
    return { l with rest := ← passQuestion (l.rest.drop 1) }.push .key

/-- Reads the gap behind a colon: behind a tab without a space no word may follow. -/
def passColon (gs : List Glyph) : Option (List Glyph) := do
  if peek gs = '\t' then
    let after ← Yaml.passGaps gs
    if !after.space && isWordChar (peek after.rest) then none else return after.rest
  else return gs

/-- Reads the colon of a value. It makes a key of the token before, if there is one that may begin
a key, and inside square brackets opens a mapping. -/
def colon (l : Layout) : Option Layout := do
  let opens := !l.pairs.isEmpty && !l.inMapping
  let place := l.glyph
  let column := place.column
  let l := if opens then { l with pairs := true :: l.pairs.drop 1 } else l
  let l := { l with rest := ← passColon (l.rest.drop 1) }
  match l.key? with
  | some k =>
    if opens && k.place.line < place.line then none
    else
      let l := l.insert k.index .key
      let l := if opens then l.insert k.index .flowMapping else l
      let l := (l.roll k.place.column k.index .blockMapping).rollPart
      return ((l.setKey none).allowKey false).push .value
  | none =>
    let l := if opens then l.push .flowMapping else l
    if !l.inFlow && !l.keyAllowed then none
    else
      let l := (l.roll column l.tokens.size .blockMapping).rollPart
      return (l.allowKey (!l.inFlow)).push .value

/-! ## Words -/

/-- Reads the name behind an ampersand or a star. -/
def name (l : Layout) (token : List Char → Nat → Token) : Option Layout := do
  let column := l.glyph.column
  let (name, rest) := spanChars isNameChar (l.rest.drop 1)
  if name.isEmpty then none
  else return { l.mayBeKey.allowKey false with rest }.push (token (chars name) column)

/-- Reads a tag. -/
def tag (l : Layout) : Option Layout := do
  let (token, rest) ← tag? l.inFlow l.rest
  return { l.mayBeKey.allowKey false with rest }.push token

/-- Reads a scalar in quotes and goes on to the next token. -/
def quoted (l : Layout) : Option Layout := do
  let (cs, after) ← quoted? l.inFlow l.indent l.rest
  let rest ← passOver l.indent false after
  let newLine := (here rest).line != (here after).line
  let l := { l.mayBeKey.allowKey (!l.inFlow && newLine) with rest }
  return { l with adjacent := some l.glyph.offset }.push (.scalar false cs)

/-- Reads a block of text. -/
def blockText (l : Layout) : Option Layout := do
  let l := l.mayBeKey.allowKey true
  let l := leaveParts l.outer l
  let (cs, rest) ← blockText? l.indent l.rest
  return { l with rest }.push (.scalar false cs)

/-- Reads a plain scalar. A key may begin behind it if a new line has begun. -/
def plain (l : Layout) : Option Layout := do
  let l := l.mayBeKey
  let l := leaveParts l.outer l
  let (cs, rest) ← plain? l.inFlow l.indent l.rest
  return { l.allowKey (here rest).leading with rest }.push (.scalar true cs)

/-! ## Lines of their own -/

/-- Closes everything outside brackets before a line that belongs to no collection. -/
def endBlocks (l : Layout) : Option Layout := do
  return (← (l.unroll (-1)).noKey).allowKey false

/-- Reads a directive. -/
def directive (l : Layout) : Option Layout := do
  let l ← l.endBlocks
  let (token, rest) ← directive? l.rest
  return { l with rest }.push token

/-- Reads three dashes or three dots; behind the dots the line must be over. -/
def marker (l : Layout) : Option Layout := do
  let l ← l.endBlocks
  if peek l.rest = '-' then return (l.drop 3).push .documentStart
  else
    let l ← ((l.drop 3).push .documentEnd).passGaps
    if endsLine (peek l.rest) then return l else none

/-! ## Tokens -/

/-- Goes on to the next token and closes the collections that lie right of it. -/
def settle (l : Layout) : Option Layout := do
  let rest ← passOver l.indent false l.rest
  let newLine := (here rest).line != l.glyph.line
  let l := { l with rest, keyAllowed := l.keyAllowed || (!l.inFlow && newLine) }
  let l ← l.dropStaleKey
  return l.unroll l.glyph.column

/-- Reads the token at hand. -/
def token (l : Layout) : Option Layout :=
  let c := peek l.rest
  let next := peekNext l.rest
  if l.glyph.column = 0 && c = '%' then l.directive
  else if endsDocument l.rest then l.marker
  else if l.glyph.isBefore l.indent then none
  else if c = '[' then l.openBracket false
  else if c = '\x7b' then l.openBracket true
  else if c = ']' then l.closeBracket false
  else if c = '\x7d' then l.closeBracket true
  else if c = ',' then l.comma
  else if c = '-' && endsWord next then l.dash
  else if c = '?' && endsWord next then l.question
  else if c = ':' && endsWord next then l.colon
  else if c = ':' && l.inFlow && l.adjacent == some l.glyph.offset then l.colon
  else if c = ':' && l.inFlow && isFlowMark next then
    if next = '[' || next = '\x7b' then none else l.colon
  else if c = '*' then l.name fun name _ => .alias name
  else if c = '&' then l.name .anchor
  else if c = '!' then l.tag
  else if (c = '|' || c = '>') && !l.inFlow then l.blockText
  else if c = '\'' || c = '"' then l.quoted
  else if c = '%' || c = '@' || c = '\x60' then none
  else l.plain

/-- The tokens of what is left; `n` bounds their number. -/
def run : (n : Nat) → Layout → Option (List Token)
  | 0, _ => none
  | n + 1, l => do
    let l ← l.settle
    if peek l.rest = '\x00' then
      if l.keys.any fun k => k.any (·.required) then none
      else return (l.unroll (-1)).tokens.toList
    else run n (← l.token)

end Layout

/-- The tokens of a text. -/
def tokens? (cs : List Char) : Option (List Token) :=
  let gs := glyphs cs
  Layout.run gs.length { rest := gs }

end RowRelay.Yaml
