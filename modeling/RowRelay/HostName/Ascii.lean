import RowRelay.HostName.Direction
import RowRelay.HostName.Image
import RowRelay.HostName.Joining
import RowRelay.Text.Composition
import RowRelay.Text.Punycode

/-!
# Names of hosts in ASCII

A name has parts with points between them. It is folded, and each part that is then not in ASCII is
written in Punycode behind a prefix. A part that comes with the prefix must spell a text that
folding leaves as it is.
-/

set_option autoImplicit false

namespace RowRelay.HostName

def isAscii (c : Char) : Bool :=
  c.toNat < 0x80

/-- The text with all characters folded. In ASCII there is nothing to be joined. -/
def folded? (cs : List Char) : Option (List Char) :=
  if cs.all isAscii then some (cs.map Char.toLower)
  else (cs.mapM fold?).map fun images => Text.compose images.flatten

/-- A part of a name. -/
structure Part where
  /-- The text it stands for. -/
  text : List Char
  ascii : List Char
  deriving DecidableEq, Repr

/-- What stands in front of Punycode. -/
def codeMark : List Char := ['x', 'n', '-', '-']

/-- The length above which Punycode is not read. -/
def longestCode : Nat := 2000

/-- The length above which a text is not written in Punycode. -/
def longestText : Nat := 1000

/-- The part that is spelled by a folded text. -/
def part? (cs : List Char) : Option Part :=
  if codeMark.isPrefixOf cs then do
    let code := cs.drop codeMark.length
    let text ← Punycode.decode? code
    let isNeeded := code.all isAscii && !(text.all isAscii)
    if code.length ≤ longestCode ∧ isNeeded ∧ folded? text = some text then some ⟨text, cs⟩
    else none
  else if cs.all isAscii then some ⟨cs, cs⟩
  else if cs.length ≤ longestText then some ⟨cs, codeMark ++ Punycode.encode cs⟩
  else none

/-- Whether a part can stand in a name. -/
def Part.isSound (p : Part) : Bool :=
  !(p.text.any isDelimiter) && !(p.text.head?.any Text.isMark) && joinersShow [] p.text

/-- The name in ASCII, if it is one. -/
def toAscii? (cs : List Char) : Option (List Char) := do
  let folded ← folded? cs
  let parts ← (folded.splitOn '.').mapM part?
  if parts.all Part.isSound ∧ directionsFit (parts.map Part.text) then
    some (List.intercalate ['.'] (parts.map Part.ascii))
  else none

end RowRelay.HostName
