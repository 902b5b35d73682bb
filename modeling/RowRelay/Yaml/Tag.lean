import RowRelay.Decimal.Read
import RowRelay.Yaml.Glyph
import RowRelay.Yaml.Token

/-!
# Tags and directives

A tag is written `!<…>` with its full address, or as a handle (`!`, `!!` or `!word!`) and what
follows it. The line of a directive begins with a percent sign; the directives known are those of
the version and of a handle.
-/

set_option autoImplicit false

namespace RowRelay.Yaml

/-! ## Escapes -/

/-- The number that two hexadecimal digits spell. -/
def hexPair? (a b : Char) : Option Nat :=
  Decimal.natural? 16 [a, b]

/-- Reads the characters of a class, some of them escaped by a percent sign: one byte as it is, or
two that make up the number of a character. -/
def unescape (p : Char → Bool) : List Glyph → Option (List Char × List Glyph)
  | [] => some ([], [])
  | g :: gs =>
    if g.char = '%' && p '%' then
      match gs with
      | a :: b :: rest => do
        let n ← hexPair? a.char b.char
        if n < 0x80 then
          let (cs, rest) ← unescape p rest
          return (Char.ofNat n :: cs, rest)
        else if 0xC0 ≤ n && n < 0xD8 then
          match rest with
          | percent :: a :: b :: rest =>
            let m ← hexPair? a.char b.char
            if percent.char = '%' && 0x80 ≤ m && m < 0xC0 then
              let (cs, rest) ← unescape p rest
              return (Char.ofNat (256 * n + m) :: cs, rest)
            else none
          | _ => none
        else none
      | _ => none
    else if p g.char then do
      let (cs, rest) ← unescape p gs
      return (g.char :: cs, rest)
    else some ([], g :: gs)

/-! ## Tags -/

/-- Reads a handle, or as much as there is of one. -/
def handle? (gs : List Glyph) : Option (List Char × List Glyph) :=
  if peek gs = '!' then
    let (word, rest) := spanChars isWordChar (gs.drop 1)
    let name := '!' :: chars word
    if peek rest = '!' then some (name ++ ['!'], rest.drop 1) else some (name, rest)
  else none

/-- Whether a handle has its second exclamation mark. -/
def isClosedHandle (name : List Char) : Bool :=
  2 ≤ name.length && name.getLast? == some '!'

/-- Reads a tag that gives its full address, which stands as a suffix without a handle. -/
def fullTag? (gs : List Glyph) : Option (List Char × List Char × List Glyph) := do
  let (uri, rest) ← unescape isUriChar (gs.drop 2)
  if peek rest = '>' then return ([], uri, rest.drop 1) else none

/-- Reads a tag that begins with a handle. The tag `!` alone has no handle either. -/
def shortTag? (gs : List Glyph) : Option (List Char × List Char × List Glyph) := do
  let (name, rest) ← handle? gs
  let (suffix, rest) ← unescape isTagChar rest
  if isClosedHandle name then
    if suffix.isEmpty then none else return (name, suffix, rest)
  else
    let suffix := name.drop 1 ++ suffix
    return if suffix.isEmpty then ([], ['!'], rest) else (['!'], suffix, rest)

/-- Reads a tag from its exclamation mark on. -/
def tag? (inFlow : Bool) (gs : List Glyph) : Option (Token × List Glyph) := do
  let (handle, suffix, rest) ← if peekNext gs = '<' then fullTag? gs else shortTag? gs
  if endsWord (peek rest) || (inFlow && isFlowMark (peek rest)) then
    return (.tag handle suffix (here gs).column, rest)
  else none

/-! ## Directives -/

/-- Reads one of the numbers of a version, of nine digits at most. -/
def versionNumber? (gs : List Glyph) : Option (List Glyph) :=
  let (digits, rest) := spanChars Char.isDigit gs
  if digits.isEmpty || 9 < digits.length then none else some rest

/-- Reads what a handle stands for. -/
def stem? (gs : List Glyph) : Option (List Char × List Glyph) :=
  if peek gs = '!' then do
    let (cs, rest) ← unescape isUriChar (gs.drop 1)
    return ('!' :: cs, rest)
  else if isTagChar (peek gs) then unescape isUriChar gs
  else none

/-- Reads what follows the name of a directive. A directive of another name means nothing, but
takes the place of those before it. -/
def directiveValue? (name : List Char) (gs : List Glyph) : Option (Token × List Glyph) :=
  if name = "YAML".toList then do
    let rest ← versionNumber? (dropChars isGap gs)
    if peek rest = '.' then return (.version, ← versionNumber? (rest.drop 1)) else none
  else if name = "TAG".toList then do
    let (handle, rest) ← handle? (dropChars isGap gs)
    if isClosedHandle handle || handle = ['!'] then
      let (stem, rest) ← stem? (dropChars isGap rest)
      if endsWord (peek rest) then return (.handle handle stem, rest) else none
    else none
  else some (.handle [] [], dropChars (!endsLine ·) gs)

/-- Reads a directive from its percent sign on, with the end of its line. -/
def directive? (gs : List Glyph) : Option (Token × List Glyph) := do
  let (name, rest) := spanChars isWordChar (gs.drop 1)
  if name.isEmpty || !endsWord (peek rest) then none
  else
    let (token, rest) ← directiveValue? (chars name) rest
    let after ← passGaps rest
    match peek after.rest with
    | '\n' => return (token, after.rest.drop 1)
    | '\x00' => return (token, after.rest)
    | _ => none

end RowRelay.Yaml
