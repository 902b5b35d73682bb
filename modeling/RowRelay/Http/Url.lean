import RowRelay.Http.Host
import RowRelay.Http.Path

/-!
# Addresses

An address is read from a text and kept in its normal form: scheme and host are written in one way,
what an address cannot hold is escaped, and the steps `.` and `..` of the path are taken. How what
follows the scheme is read depends on it: the schemes of the network always name a host, and take a
backslash for a slash; an address of a file may name one.
-/

set_option autoImplicit false

namespace RowRelay.Http

/-- Who asks. -/
structure User where
  name : String
  password : Option String
  deriving DecidableEq, Repr

/-- What stands behind two slashes. -/
structure Authority where
  user : Option User := none
  host : Option Host := none
  /-- The number of the host, unless it is the one usual for the scheme. -/
  port : Option Nat := none
  deriving DecidableEq, Repr

structure Url where
  scheme : String
  authority : Option Authority
  path : String
  query : Option String
  fragment : Option String
  deriving DecidableEq, Repr

/-! ## Writing -/

def User.render (u : User) : String :=
  match u.password with
  | some password => s!"{u.name}:{password}@"
  | none => s!"{u.name}@"

def Authority.render (a : Authority) : String :=
  let user := match a.user with
    | some user => user.render
    | none => ""
  let host := match a.host with
    | some host => host.render
    | none => ""
  match a.port with
  | some port => s!"{user}{host}:{port}"
  | none => user ++ host

namespace Url

/-- What a request asks the host for. -/
def target (u : Url) : String :=
  match u.query with
  | some q => s!"{u.path}?{q}"
  | none => u.path

/-- The address as a text. A path behind no authority does not begin with two slashes, lest one is
read out of it. -/
def render (u : Url) : String :=
  let authority := match u.authority with
    | some a => s!"//{a.render}"
    | none => if u.path.startsWith "//" then "/." else ""
  let fragment := match u.fragment with
    | some f => s!"#{f}"
    | none => ""
  s!"{u.scheme}:{authority}{u.target}{fragment}"

/-! ## Schemes -/

/-- The number that hosts have unless another is given, for the schemes of the network. -/
def usualPort? (scheme : String) : Option Nat :=
  match scheme with
  | "http" | "ws" => some 80
  | "https" | "wss" => some 443
  | "ftp" => some 21
  | _ => none

/-- The scheme in front of the first colon, in lower case, and the rest. -/
def scheme? (cs : List Char) : Option (String × List Char) :=
  match cs.span (· != ':') with
  | (c :: cs, _ :: rest) =>
    if c.isAlpha && cs.all fun c => c.isAlphanum || ['+', '-', '.'].contains c then
      some (String.ofList ((c :: cs).map Char.toLower), rest)
    else none
  | _ => none

/-! ## Authorities -/

/-- The characters of a text up to a mark, and what follows the mark. -/
def cutAt (mark : Char) (cs : List Char) : List Char × Option (List Char) :=
  match cs.span (· != mark) with
  | (before, []) => (before, none)
  | (before, _ :: after) => (before, some after)

/-- What stands before the last `@`, and what follows it. -/
def cutUser (cs : List Char) : Option (List Char) × List Char :=
  match cutAt '@' cs.reverse with
  | (after, some before) => (some before.reverse, after.reverse)
  | (_, none) => (none, cs)

/-- The user with a name and a password; either may be missing. -/
def readUser (cs : List Char) : Option User :=
  let text (cs : List Char) : String := String.ofList (escape userMarks cs)
  let (name, password) := cutAt ':' cs
  let password := password.filter (!·.isEmpty)
  if name.isEmpty && password.isNone then none else some ⟨text name, password.map text⟩

/-- The host up to a colon that is not in brackets, and what is left. -/
def cutHost (isInside : Bool) : List Char → List Char × List Char
  | [] => ([], [])
  | c :: cs =>
    if c = ':' ∧ !isInside then ([], c :: cs)
    else
      let (host, rest) := cutHost (c == '[' || isInside && c != ']') cs
      (c :: host, rest)

/-- The number behind a colon, unless it is the usual one, and what is left. -/
def port? (usual : Option Nat) : List Char → Option (Option Nat × List Char)
  | ':' :: cs => do
    let (digits, rest) := cs.span Char.isDigit
    if !rest.isEmpty ∧ rest.head? ≠ some '\\' then none
    else if digits.isEmpty then return (none, rest)
    else
      let port ← Decimal.natural? 10 digits
      if 65535 < port then none
      else return (if usual = some port then none else some port, rest)
  | cs => some (none, cs)

/-- The authority at the start of a text, and what follows it. Only outside the network can the
host be missing, and then there is no user or number either. -/
def authority? (scheme : String) (cs : List Char) : Option (Authority × List Char) := do
  let (text, path) := cs.span (· != '/')
  let (userText, place) := cutUser text
  let user := userText.bind readUser
  let (hostText, tail) := cutHost false place
  let usual := usualPort? scheme
  if hostText.isEmpty then
    if usual.isSome ∨ userText = some [] ∨ user.isSome ∨ !tail.isEmpty then none
    else return ({}, path)
  else
    let host ← if usual.isSome then Host.ofNetwork? hostText else Host.ofText? hostText
    let (port, rest) ← port? usual tail
    return ({ user, host := some host, port }, rest ++ path)

/-! ## Files -/

/-- The host at the start of the address of a file, and what follows it. A drive is no host, and
`localhost` is none that need be named. -/
def fileHost? (cs : List Char) : Option (Option Host × List Char) := do
  let (hostText, path) := cs.span (· != '/')
  if hostText.isEmpty ∨ isDrive hostText then return (none, cs)
  else
    let host ← Host.ofNetwork? hostText
    return (if host = .name "localhost" then none else some host, path)

/-- The path of a file begins with one slash. -/
def withOneSlash (path : List Char) : List Char :=
  '/' :: path.dropWhile (· == '/')

/-- The path of a file on this host. -/
def filePath (cs : List Char) : List Char :=
  withOneSlash (normalPath true cs)

/-- The authority and the path of a file. The drives are those of this host. -/
def file? (cs : List Char) : Option (Authority × List Char) :=
  match cs with
  | '/' :: '/' :: cs => do
    let (host, rest) ← fileHost? cs
    if host.isNone then return ({}, filePath rest)
    else
      let path := normalPath true (rest.drop 1)
      let startsWithDrive := isDrive ((path.drop 1).takeWhile (· != '/'))
      return ({ host := if startsWithDrive then none else host }, withOneSlash path)
  | '/' :: cs => some ({}, filePath cs)
  | cs => some ({}, filePath cs)

/-! ## Reading -/

/-- What an address is read from: the text without blanks and control characters at its ends, and
without tabs and ends of lines anywhere. -/
def clean (s : String) : List Char :=
  let inner := (s.toList.dropWhile (· ≤ ' ')).reverse.dropWhile (· ≤ ' ')
  inner.reverse.filter fun c => !(['\t', '\n', '\r'].contains c)

/-- A path behind a host. -/
def pathBehindHost (isOfNetwork : Bool) : List Char → List Char
  | [] => if isOfNetwork then ['/'] else []
  | '/' :: cs => normalPath false cs
  | cs => normalPath false cs

/-- The authority and the path behind a scheme. -/
def place? (scheme : String) (cs : List Char) : Option (Option Authority × List Char) :=
  let isOfNetwork := (usualPort? scheme).isSome
  let cs := if isOfNetwork || scheme == "file" then
      cs.map fun c => if c = '\\' then '/' else c
    else cs
  if scheme = "file" then (file? cs).map fun (a, path) => (some a, path)
  else if isOfNetwork then do
    let (a, path) ← authority? scheme (cs.dropWhile (· == '/'))
    return (some a, pathBehindHost true path)
  else
    match cs with
    | '/' :: '/' :: cs => do
      let (a, path) ← authority? scheme cs
      return (some a, pathBehindHost false path)
    | '/' :: cs => some (none, normalPath false cs)
    | cs => some (none, escape [] cs)

/-- Reads an address. -/
def parse? (s : String) : Option Url := do
  let (scheme, rest) ← scheme? (clean s)
  let (rest, fragment) := cutAt '#' rest
  let (rest, query) := cutAt '?' rest
  let (authority, path) ← place? scheme rest
  let isPlain := (usualPort? scheme).isNone && scheme != "file"
  let queryMarks := if isPlain then queryMarks else '\'' :: queryMarks
  return {
    scheme, authority
    path := String.ofList path
    query := query.map fun q => String.ofList (escape queryMarks q)
    fragment := fragment.map fun f => String.ofList (escape fragmentMarks f) }

/-! ## Requests -/

def host? (u : Url) : Option Host :=
  u.authority.bind Authority.host

/-- The address without its user. One whose name does not spell a text stays. -/
def withoutUser (u : Url) : Url :=
  let isText (s : String) : Bool := (unescaped? s.toList).isSome
  match u.authority with
  | some a =>
    let isTaken := a.user.any fun user =>
      isText user.name && (user.name != "" || user.password.any isText)
    if isTaken then { u with authority := some { a with user := none } } else u
  | none => u

/-- How many bytes an address of a request has at most. -/
def maxLength : Nat := 65534

/-- Whether a request can be sent to the address. -/
def isRequestable (u : Url) : Bool :=
  ["http", "https"].contains u.scheme && u.host?.any Host.isNameable &&
    u.render.utf8ByteSize ≤ maxLength

end Url

end RowRelay.Http
