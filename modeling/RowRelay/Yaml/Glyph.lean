/-!
# Characters with their places

A document is read as a list of glyphs: each character with its line and column. Structure goes by
columns, so a glyph also knows whether it begins the content of its line. A text ends at its first
NUL, if it has one; a glyph for that end stands behind all others. A tab counts as one column.
-/

set_option autoImplicit false

namespace RowRelay.Yaml

/-! ## Characters -/

/-- A space or a tab. -/
def isGap (c : Char) : Bool :=
  c == ' ' || c == '\t'

/-- The end of a line or of the text. -/
def endsLine (c : Char) : Bool :=
  c == '\n' || c == '\x00'

/-- Whether a word ends before this character. -/
def endsWord (c : Char) : Bool :=
  isGap c || endsLine c

/-- The marks of sequences and mappings written in brackets. -/
def isFlowMark (c : Char) : Bool :=
  [',', '[', ']', '\x7b', '\x7d'].contains c

/-- The characters of the names of directives and of handles. -/
def isWordChar (c : Char) : Bool :=
  c.isAlphanum || c == '_' || c == '-'

/-- The characters of an address that stand for themselves, and the one that escapes others. -/
def isUriChar (c : Char) : Bool :=
  isWordChar c || "#;/?:@&=+$,.!~*'()[]%".toList.contains c

/-- The characters of a tag behind its handle. -/
def isTagChar (c : Char) : Bool :=
  isUriChar c && !isFlowMark c && c != '!'

/-- The characters of the name of an anchor. A byte order mark is none. -/
def isNameChar (c : Char) : Bool :=
  !endsWord c && !isFlowMark c && c != '\ufeff'

/-! ## Glyphs -/

structure Glyph where
  char : Char
  offset : Nat
  line : Nat
  column : Nat
  /-- Whether only gaps stand before it on its line. -/
  leading : Bool
  deriving Repr

/-- The end of a text of which nothing is known. -/
def Glyph.last : Glyph := ⟨'\x00', 0, 0, 0, true⟩

/-- Whether a glyph lies left of a column. -/
def Glyph.isBefore (g : Glyph) (column : Int) : Bool :=
  decide ((g.column : Int) < column)

/-- The glyphs of a text from a place on. -/
def glyphsFrom (offset line column : Nat) (leading : Bool) : List Char → List Glyph
  | [] => [⟨'\x00', offset, line, column, leading⟩]
  | c :: cs =>
    ⟨c, offset, line, column, leading⟩ ::
      if c = '\n' then glyphsFrom (offset + 1) (line + 1) 0 true cs
      else glyphsFrom (offset + 1) line (column + 1) (leading && isGap c) cs

/-- Line ends of every kind become one character. -/
def unifyLines : List Char → List Char
  | '\r' :: '\n' :: rest => '\n' :: unifyLines rest
  | '\r' :: rest => '\n' :: unifyLines rest
  | c :: rest => c :: unifyLines rest
  | [] => []

/-- The glyphs of a text. -/
def glyphs (cs : List Char) : List Glyph :=
  glyphsFrom 0 0 0 true ((unifyLines cs).takeWhile (· != '\x00'))

/-! ## Looking ahead -/

/-- The first glyph. -/
def here : List Glyph → Glyph
  | [] => Glyph.last
  | g :: _ => g

/-- The first character. -/
def peek (gs : List Glyph) : Char :=
  (here gs).char

/-- The character behind the first. -/
def peekNext (gs : List Glyph) : Char :=
  peek (gs.drop 1)

/-- The characters of glyphs. -/
def chars (gs : List Glyph) : List Char :=
  gs.map (·.char)

/-- The glyphs before the first whose character is not of a class, and the others. -/
def spanChars (p : Char → Bool) (gs : List Glyph) : List Glyph × List Glyph :=
  gs.span (p ·.char)

/-- The glyphs from the first on whose character is not of a class. -/
def dropChars (p : Char → Bool) (gs : List Glyph) : List Glyph :=
  gs.dropWhile (p ·.char)

/-- Whether three dashes or three dots stand here as a word. -/
def isMarker (gs : List Glyph) : Bool :=
  let head := chars (gs.take 3)
  (head == ['-', '-', '-'] || head == ['.', '.', '.']) && endsWord (peek (gs.drop 3))

/-- Whether a marker stands at the beginning of a line here. -/
def endsDocument (gs : List Glyph) : Bool :=
  (here gs).column == 0 && isMarker gs

/-! ## Gaps and comments -/

/-- Whether the line holds nothing more, a comment apart. -/
def lineIsOver (gs : List Glyph) : Bool :=
  let c := peek (dropChars isGap gs)
  endsLine c || c == '#'

/-- What follows the gaps on a line, and whether there was a space or a tab among them. -/
structure AfterGaps where
  rest : List Glyph
  space : Bool
  tab : Bool

/-- Passes over gaps and a comment behind them. A comment without a gap in front is refused. -/
def passGaps (gs : List Glyph) : Option AfterGaps :=
  let (gaps, rest) := spanChars isGap gs
  let after (rest : List Glyph) : AfterGaps :=
    ⟨rest, gaps.any (·.char == ' '), gaps.any (·.char == '\t')⟩
  if peek rest = '#' then
    if gaps.isEmpty then none else some (after (dropChars (!endsLine ·) rest))
  else some (after rest)

/-- Passes over gaps, ends of lines and comments up to the next token. A tab in the first `indent`
columns of a line with content is refused. -/
def passOver (indent : Int) : (inComment : Bool) → List Glyph → Option (List Glyph)
  | _, [] => some []
  | inComment, g :: gs =>
    if g.char = '\n' then passOver indent false gs
    else if g.char = '\x00' then some (g :: gs)
    else if inComment then passOver indent true gs
    else if isGap g.char then
      if g.char = '\t' && g.leading && g.isBefore indent && !lineIsOver gs then none
      else passOver indent false gs
    else if g.char = '#' then passOver indent true gs
    else some (g :: gs)

end RowRelay.Yaml
