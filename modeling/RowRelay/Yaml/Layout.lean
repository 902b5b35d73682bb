import RowRelay.Yaml.Glyph
import RowRelay.Yaml.Token

/-!
# Layout

What the place of a token says about structure. A column further right than that of the collection
at hand opens a collection, a column further left closes those that are open. Whether a scalar is
a key shows only at the colon behind it, so a token that may begin a key is remembered, and the
marks that make it one are put before it then.
-/

set_option autoImplicit false

namespace RowRelay.Yaml

/-- A token that may begin a key. -/
structure KeyStart where
  /-- Where it stands among the tokens. -/
  index : Nat
  place : Glyph
  /-- Whether it must be a key, because the entries of a mapping stand at its column. -/
  required : Bool

/-- A collection, or a part of one, that surrounds the one at hand. -/
structure Surrounding where
  column : Int
  /-- Whether the inner collection is closed by a token of its own; else it is only the place
  behind a key or a dash, one column to the right. -/
  isCollection : Bool

/-- The tokens read so far, and what must be known to go on. -/
structure Layout where
  rest : List Glyph
  tokens : Array Token := #[]
  /-- The column of the collection at hand; outside all of them it is -1. -/
  indent : Int := -1
  outer : List Surrounding := []
  /-- The token that may begin a key, for each pair of brackets open and for the text around
  them, innermost first. -/
  keys : List (Option KeyStart) := [none]
  /-- Whether a key may begin here. -/
  keyAllowed : Bool := true
  /-- Whether a mapping in brackets was opened, so that a colon does not open one. -/
  inMapping : Bool := false
  /-- For each pair of square brackets open whether a colon has opened a mapping in them. -/
  pairs : List Bool := []
  /-- Where a colon may follow at once because something closed stands before it. -/
  adjacent : Option Nat := none

namespace Layout

/-- How many pairs of brackets are open. -/
def depth (l : Layout) : Nat :=
  l.keys.length - 1

def inFlow (l : Layout) : Bool :=
  l.depth != 0

/-- The glyph at hand. -/
def glyph (l : Layout) : Glyph :=
  here l.rest

/-- Adds a token. -/
def push (l : Layout) (t : Token) : Layout :=
  { l with tokens := l.tokens.push t }

/-- Puts a token before one that was read. -/
def insert (l : Layout) (index : Nat) (t : Token) : Layout :=
  { l with tokens := l.tokens.insertIdxIfInBounds index t }

/-- Passes over characters. -/
def drop (l : Layout) (n : Nat) : Layout :=
  { l with rest := l.rest.drop n }

/-- Passes over gaps and a comment. -/
def passGaps (l : Layout) : Option Layout := do
  return { l with rest := (← Yaml.passGaps l.rest).rest }

/-! ## Columns -/

/-- Closes the collections that lie right of a column, at the end of each adding its token. -/
def unrollTo (column : Int) : List Surrounding → Layout → Layout
  | [], l => l
  | s :: outer, l =>
    if column < l.indent then
      let l := { l with indent := s.column, outer }
      unrollTo column outer (if s.isCollection then l.push .blockEnd else l)
    else l

/-- Closes the collections that lie right of a column. Inside brackets columns count for nothing. -/
def unroll (l : Layout) (column : Int) : Layout :=
  if l.inFlow then l else unrollTo column l.outer l

/-- Leaves the places behind keys and dashes. -/
def leaveParts : List Surrounding → Layout → Layout
  | [], l => l
  | s :: outer, l =>
    if s.isCollection then l else leaveParts outer { l with indent := s.column, outer }

/-- Leaves the place behind a key or a dash, which is not needed after all. -/
def leavePart (l : Layout) (column : Nat) : Layout :=
  match l.outer with
  | s :: outer =>
    if l.indent ≤ column && !s.isCollection then { l with indent := s.column, outer } else l
  | [] => l

/-- Opens a collection at a column, if it lies right of the one at hand. Its token stands before
the one of number `index`. -/
def roll (l : Layout) (column index : Nat) (opening : Token) : Layout :=
  if l.inFlow then l
  else
    let l := l.leavePart column
    if l.indent < column then
      { l with outer := ⟨l.indent, true⟩ :: l.outer, indent := column }.insert index opening
    else l

/-- Opens a collection at the column at hand. -/
def rollHere (l : Layout) (opening : Token) : Layout :=
  l.roll l.glyph.column l.tokens.size opening

/-- Enters the place behind a key or a dash. -/
def rollPart (l : Layout) : Layout :=
  match l.outer with
  | s :: _ =>
    if !l.inFlow && s.isCollection then
      { l with outer := ⟨l.indent, false⟩ :: l.outer, indent := l.indent + 1 }
    else l
  | [] => l

/-! ## Keys -/

/-- The token that may begin a key at hand. -/
def key? (l : Layout) : Option KeyStart :=
  l.keys.head?.join

/-- Replaces the token that may begin a key. -/
def setKey (l : Layout) (k : Option KeyStart) : Layout :=
  { l with keys := k :: l.keys.drop 1 }

/-- Remembers that the token at hand may begin a key. -/
def mayBeKey (l : Layout) : Layout :=
  if l.keyAllowed then
    let inCollection := match l.outer with
      | s :: _ => s.isCollection
      | [] => false
    let required := !l.inFlow && l.indent == l.glyph.column && inCollection
    l.setKey (some ⟨l.tokens.size, l.glyph, required⟩)
  else l

/-- Forgets the token that may begin a key, which must not have been required. -/
def noKey (l : Layout) : Option Layout :=
  match l.key? with
  | some k => if k.required then none else some (l.setKey none)
  | none => some l

/-- How many characters a key outside brackets may take. -/
def keyLength : Nat := 1024

/-- Forgets a token that cannot begin a key any more: outside brackets a key takes one line. -/
def dropStaleKey (l : Layout) : Option Layout :=
  match l.key? with
  | some k =>
    if !l.inFlow &&
        (k.place.line != l.glyph.line || k.place.offset + keyLength < l.glyph.offset) then
      l.noKey
    else some l
  | none => some l

/-- Whether a key may begin behind this token. -/
def allowKey (l : Layout) (allowed : Bool) : Layout :=
  { l with keyAllowed := allowed }

/-! ## Brackets -/

/-- More brackets than this cannot be open at once. -/
def maxDepth : Nat := 255

/-- Closes the mapping that a colon opened in square brackets. -/
def endPair (l : Layout) : Layout :=
  match l.pairs with
  | true :: rest => { l with pairs := false :: rest, inMapping := false }.push .flowMappingEnd
  | _ => l

end Layout

end RowRelay.Yaml
