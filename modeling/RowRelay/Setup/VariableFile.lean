import RowRelay.Text.Alphanumeric
import RowRelay.Text.Blank
import RowRelay.Text.Utf8

/-!
# Files of variables

A file gives variables in lines `NAME=value`, perhaps behind the word `export`. A value may be
quoted, over several lines if need be, and may hold other variables after a dollar sign. A variable
that is set already stays as it is. Reading ends at the first line that is not of this form. No
variable can hold a NUL, so a file that sets one to such a value cannot be used at all.
-/

set_option autoImplicit false

namespace RowRelay.Setup.VariableFile

/-- Variables by name. -/
abbrev Variables := List (String × String)

/-! ## Lines -/

/-- What is open at some point of a line. -/
inductive Open where
  | nothing
  | blank
  | escape
  | strong
  | strongEscape
  | weak
  | weakEscape
  deriving DecidableEq

/-- What is open behind a character. -/
def Open.after (o : Open) (c : Char) : Open :=
  let outside : Open :=
    if c = '\\' then .escape else if c = '"' then .weak else if c = '\'' then .strong else .nothing
  match o with
  | .nothing => if Text.isBlank c && c != '\n' && c != '\r' then .blank else outside
  | .blank => outside
  | .escape => .nothing
  | .strong => if c = '\\' then .strongEscape else if c = '\'' then .nothing else .strong
  | .strongEscape => .strong
  | .weak => if c = '\\' then .weakEscape else if c = '"' then .nothing else .weak
  | .weakEscape => .weak

/-- How a line ends that began with something open: with something open, or with a comment behind
so many characters. -/
inductive LineEnd where
  | leaves (o : Open)
  | comment (length : Nat)

def lineEnd : (length : Nat) → Open → List Char → LineEnd
  | _, o, [] => .leaves o
  | n, o, c :: cs => if o = .blank ∧ c = '#' then .comment n else lineEnd (n + 1) (o.after c) cs

/-- The lines of a text with their ends. -/
def physicalLines (cs : List Char) : List (List Char) :=
  let parts := cs.splitOn '\n'
  parts.dropLast.map (· ++ ['\n']) ++ (parts.getLast?.toList.filter (!·.isEmpty))

/-- A line without its end. -/
def withoutEnd (cs : List Char) : List Char :=
  match cs.reverse with
  | '\n' :: '\r' :: rest => rest.reverse
  | '\n' :: rest => rest.reverse
  | _ => cs

/-- Joins lines while a quote is open, and cuts comments off. Nothing stands for a quote that is
still open at the end of the text. -/
def logicalLines : (buffer : List Char) → Open → List (List Char) → List (Option (List Char))
  | _, o, [] => if o = .nothing then [] else [none]
  | buffer, o, line :: rest =>
    let joined := buffer ++ line
    if (joined.dropWhile Text.isBlank).head? = some '#' then
      some [] :: logicalLines [] .nothing rest
    else match lineEnd 0 o line with
      | .comment n => some (buffer ++ line.take n) :: logicalLines [] .nothing rest
      | .leaves .nothing => some (withoutEnd joined) :: logicalLines [] .nothing rest
      | .leaves o => logicalLines joined o rest

/-! ## Values -/

/-- The name of a variable under way behind a dollar sign, last character first. -/
inductive Insertion where
  | none
  | bare (name : List Char)
  | braced (name : List Char)

/-- A value under way, last character first. -/
structure Reading where
  output : List Char := []
  strong : Bool := false
  weak : Bool := false
  escaped : Bool := false
  ending : Bool := false
  insertion : Insertion := .none

namespace Reading

/-- Puts the value of a variable behind what was read. -/
def insert (known : Variables) (r : Reading) (name : List Char) : Reading :=
  let value := (known.lookup (String.ofList name.reverse)).getD ""
  { r with output := value.toList.reverse ++ r.output, insertion := .none }

def push (r : Reading) (c : Char) : Reading :=
  { r with output := c :: r.output }

/-- Takes a character inside or right behind the name of a variable. -/
def takeInName (known : Variables) (r : Reading) (c : Char) : Reading :=
  match r.insertion with
  | .none => r
  | .bare name =>
    if Text.isAlphanumeric c then { r with insertion := .bare (c :: name) }
    else if c = '\x7b' ∧ name = [] then { r with insertion := .braced [] }
    else if c = '$' then { r.insert known name with insertion := .bare [] }
    else (r.insert known name).push c
  | .braced name =>
    if c = '\x7d' then r.insert known name else { r with insertion := .braced (c :: name) }

/-- Takes the character after a backslash. -/
def takeEscaped (r : Reading) (c : Char) : Option Reading :=
  let r := { r with escaped := false }
  if ['\\', '\'', '"', '$', ' '].contains c then some (r.push c)
  else if c = 'n' then some (r.push '\n')
  else none

/-- Takes a character that is neither escaped nor between single quotes. -/
def takePlain (r : Reading) (c : Char) : Reading :=
  if c = '$' then { r with insertion := .bare [] }
  else if c = '\\' then { r with escaped := true }
  else if r.weak then if c = '"' then { r with weak := false } else r.push c
  else if c = '\'' then { r with strong := true }
  else if c = '"' then { r with weak := true }
  else if c = ' ' ∨ c = '\t' then { r with ending := true }
  else r.push c

/-- What is read when the value ends; quotes and braces must be closed. -/
def finish (known : Variables) (r : Reading) : Option String :=
  match r.insertion with
  | .braced _ => Option.none
  | .bare name =>
    if r.strong || r.weak then Option.none
    else some (String.ofList (r.insert known name).output.reverse)
  | .none =>
    if r.strong || r.weak then Option.none else some (String.ofList r.output.reverse)

/-- Reads a value. Behind a blank outside quotes there may be only a comment. -/
def value? (known : Variables) : Reading → List Char → Option String
  | r, [] => r.finish known
  | r, c :: cs =>
    if r.ending then
      if c = ' ' ∨ c = '\t' then value? known r cs
      else if c = '#' then r.finish known
      else Option.none
    else if r.escaped then
      match r.takeEscaped c with
      | some r => value? known r cs
      | none => Option.none
    else if r.strong then
      value? known (if c = '\'' then { r with strong := false } else r.push c) cs
    else match r.insertion with
      | .none => value? known (r.takePlain c) cs
      | _ => value? known (r.takeInName known c) cs

end Reading

/-! ## Assignments -/

/-- What a line holds. -/
inductive Assignment where
  | none
  | set (name value : String)
  | malformed

/-- The name at the beginning of a text, and what follows it behind blanks. -/
def name? (cs : List Char) : Option (List Char × List Char) :=
  match cs with
  | c :: _ =>
    if c.isAlpha || c == '_' then
      let name := cs.takeWhile fun c => c.isAlphanum || c == '_' || c == '.'
      some (name, (cs.drop name.length).dropWhile Text.isBlank)
    else Option.none
  | [] => Option.none

/-- The name and the text of the value in a line. -/
def sides? (cs : List Char) : Option (List Char × List Char) := do
  match ← name? cs with
  | (name, '=' :: rest) => some (name, rest.dropWhile Text.isBlank)
  | (name, rest) =>
    if name = "export".toList then
      match ← name? rest with
      | (name, '=' :: rest) => some (name, rest.dropWhile Text.isBlank)
      | _ => Option.none
    else Option.none

/-- Reads a line. -/
def Assignment.ofLine (known : Variables) (line : List Char) : Assignment :=
  let line := Text.trim line
  if line.isEmpty || line.head? == some '#' then .none
  else match sides? line with
    | Option.none => .malformed
    | some (name, rest) =>
      let name := String.ofList name
      if rest.isEmpty || rest.head? == some '#' then .set name ""
      else match Reading.value? known {} rest with
        | some value => .set name value
        | Option.none => .malformed

/-- Sets a variable, unless it is set already. -/
def Variables.set? (known : Variables) (name value : String) : Option Variables :=
  if (known.lookup name).isSome then some known
  else if value.toList.contains '\x00' then none
  else some (known ++ [(name, value)])

/-- Sets variables line by line, up to the first line that cannot be read. -/
def setAll : Variables → List (Option (List Char)) → Option Variables
  | known, [] => some known
  | known, Option.none :: _ => some known
  | known, some line :: rest =>
    match Assignment.ofLine known line with
    | .malformed => some known
    | .none => setAll known rest
    | .set name value => do setAll (← known.set? name value) rest

/-- The characters of a file, up to the line with the first byte that is no UTF-8. -/
def readable (bs : Bytes) : List Char :=
  let bs := match bs with
    | 0xEF :: 0xBB :: 0xBF :: rest => rest
    | _ => bs
  match Utf8.decode bs with
  | .ok cs => cs
  | .error offset =>
    let cs := (Utf8.decodeLossy (bs.take offset)).toList
    (cs.reverse.dropWhile (· != '\n')).reverse

/-- The variables after a file of variables was read, if it can be used. -/
def extend (known : Variables) (file : Bytes) : Option Variables :=
  setAll known (logicalLines [] .nothing (physicalLines (readable file)))

end RowRelay.Setup.VariableFile
