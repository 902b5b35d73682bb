import RowRelay.HostName.Ascii
import RowRelay.Http.Escape
import RowRelay.Http.Ipv4
import RowRelay.Http.Ipv6

/-!
# Hosts

A host is given by its name or by a numerical address. For the schemes of the network a name is
written in ASCII, and one that ends in a number is an address; for others it is any text.
-/

set_option autoImplicit false

namespace RowRelay.Http

inductive Host where
  | name (text : String)
  | ipv4 (address : Ipv4)
  | ipv6 (address : Ipv6)
  deriving DecidableEq, Repr

namespace Host

def render : Host → String
  | .name text => text
  | .ipv4 address => address.render
  | .ipv6 address => s!"[{address.render}]"

/-- The host in brackets. -/
def inBrackets? (cs : List Char) : Option Host :=
  if cs.getLast? = some ']' then (Ipv6.ofText? cs.dropLast).map .ipv6 else none

/-- A host of the network. Its name may have escapes. -/
def ofNetwork? : List Char → Option Host
  | '[' :: cs => inBrackets? cs
  | cs => do
    let name ← HostName.toAscii? (← unescaped? cs)
    if name.isEmpty then none
    else if Ipv4.endsInNumber name then (Ipv4.ofName? name).map .ipv4
    else some (.name (String.ofList name))

/-- The marks that no name has. -/
def forbiddenMarks : List Char := "\x00\t\n\r #/:<>?@[\\]^|".toList

/-- A host of some other kind. -/
def ofText? : List Char → Option Host
  | '[' :: cs => inBrackets? cs
  | cs =>
    if cs.any forbiddenMarks.contains then none
    else some (.name (String.ofList (escape [] cs)))

/-- Whether a request can name the host: some marks are let pass in a name but not there. -/
def isNameable (h : Host) : Bool :=
  !(h.render.toList.any "\"`\x7b\x7d".toList.contains)

end Host

end RowRelay.Http
