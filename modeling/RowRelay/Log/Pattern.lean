import RowRelay.Decimal.Read
import RowRelay.Text.Alphanumeric
import RowRelay.Text.Blank

/-!
# Patterns

A directive of the log may ask for the value of a field: a number, or any text that a pattern
matches. `isPattern` tells whether a text is a pattern that can be matched. Patterns are read up to
the first closing brace of the directive, so that whatever needs a pair of braces is none. They are
matched byte by byte and without tables of characters. So they have no edges of words, no letter
stands for its capital too, and there are no kinds of characters such as digits, unless a flag
restricts the pattern to ASCII.
-/

set_option autoImplicit false

namespace RowRelay.Log

namespace Pattern

/-! ## Flags -/

/-- What flags say about the rest of a group. -/
structure Flags where
  /-- Whether letters stand for their capitals too. -/
  caseless : Bool := false
  /-- Whether characters beyond ASCII count. -/
  unicode : Bool := true
  /-- Whether blanks, and remarks from `#` to the end of a line, are passed over. -/
  spaced : Bool := false
  deriving DecidableEq, Repr

/-- Sets or takes away a flag. Those not mentioned here matter to what is matched only. -/
def Flags.set (f : Flags) (value : Bool) (flag : Char) : Flags :=
  if flag = 'i' then { f with caseless := value }
  else if flag = 'u' then { f with unicode := value }
  else if flag = 'x' then { f with spaced := value }
  else f

/-- Whether letters can be matched. -/
def Flags.hasLetters (f : Flags) : Bool :=
  !(f.caseless && f.unicode)

/-- Whether a character is one of ASCII, or those beyond count. -/
def Flags.hasCharacter (f : Flags) (c : Char) : Bool :=
  f.unicode || c.toNat < 0x80

/-- What is left behind characters of a kind and that which is passed over. -/
def Flags.dropWhile (f : Flags) (isDropped : Char → Bool) :
    (inRemark : Bool) → List Char → List Char
  | _, [] => []
  | true, c :: cs => f.dropWhile isDropped (c != '\n') cs
  | false, c :: cs =>
    if f.spaced ∧ c = '#' then f.dropWhile isDropped true cs
    else if isDropped c || (f.spaced && Text.isBlank c) then f.dropWhile isDropped false cs
    else c :: cs

/-- What is left behind that which is passed over. -/
def Flags.next (f : Flags) (cs : List Char) : List Char :=
  f.dropWhile (fun _ => false) false cs

/-! ## Escapes -/

/-- What an escape stands for. -/
inductive Escaped where
  | literal (c : Char)
  /-- A kind of characters, or all others. -/
  | kind (isOthers : Bool)
  | category
  /-- The start or the end of the text. -/
  | edge
  | wordEdge
  deriving DecidableEq, Repr

/-- Whether something can be matched on its own. -/
def Flags.allow (f : Flags) : Escaped → Bool
  | .literal _ => f.hasLetters
  | .kind isOthers => !f.unicode && !isOthers
  | .category => false
  | .edge => true
  | .wordEdge => !f.unicode

/-- Whether something can be matched as a member of a set. -/
def Flags.allowMember (f : Flags) : Escaped → Bool
  | .literal c => f.hasCharacter c
  | .kind isOthers => !f.unicode && !isOthers
  | _ => false

/-- So many characters, and what follows them. -/
def takeMany? (f : Flags) : (count : Nat) → List Char → Option (List Char × List Char)
  | 0, cs => some ([], cs)
  | count + 1, cs =>
    match f.next cs with
    | [] => none
    | c :: rest => (takeMany? f count rest).map fun (more, rest) => (c :: more, rest)

/-- The character with the number that so many hexadecimal digits spell, and what follows them. -/
def hex? (f : Flags) (digits : Nat) (cs : List Char) : Option (Escaped × List Char) := do
  let (spelled, rest) ← takeMany? f digits cs
  let n ← Decimal.natural? 16 spelled
  if n.isValidChar then some (.literal (Char.ofNat n), rest) else none

/-- Reads what stands behind a backslash. A number of two digits is that of a byte unless characters
beyond ASCII count, and such a byte is no character on its own. -/
def escaped? (f : Flags) : List Char → Option (Escaped × List Char)
  | [] => none
  | c :: cs =>
    if c = 'x' then (hex? f 2 cs).filter fun
      | (.literal c, _) => f.hasCharacter c
      | _ => true
    else if c = 'u' then hex? f 4 cs
    else if c = 'U' then hex? f 8 cs
    else if c = 'p' ∨ c = 'P' then if cs.isEmpty then none else some (.category, cs.drop 1)
    else if "dsw".toList.contains c then some (.kind false, cs)
    else if "DSW".toList.contains c then some (.kind true, cs)
    else if "Az".toList.contains c then some (.edge, cs)
    else if "bB<>".toList.contains c then some (.wordEdge, cs)
    else match [('a', '\x07'), ('f', '\x0c'), ('t', '\t'), ('n', '\n'), ('r', '\r'),
        ('v', '\x0b')].lookup c with
      | some control => some (.literal control, cs)
      | none =>
        if c.toNat < 0x80 ∧ !c.isAlphanum then some (.literal c, cs) else none

/-! ## Sets of characters -/

/-- A character or an escape in a set. -/
def member? (f : Flags) : List Char → Option (Escaped × List Char)
  | [] => none
  | '\\' :: cs => (escaped? f cs).filter fun m => f.allowMember m.1
  | c :: cs => if f.allowMember (.literal c) then some (.literal c, cs) else none

/-- A member of a set, or a range of characters. A hyphen before the end of the set or before
another hyphen makes no range. -/
def range? (f : Flags) (cs : List Char) : Option (List Char) := do
  let (first, rest) ← member? f cs
  match f.next rest with
  | '-' :: rest' =>
    match f.next rest' with
    | ']' :: _ | '-' :: _ => some ('-' :: rest')
    | rest' =>
      let (last, rest) ← member? f rest'
      match first, last with
      | .literal a, .literal b => if a ≤ b then some rest else none
      | _, _ => none
  | rest => some rest

/-- Reads what follows the opening bracket of a set and may not mean there what it means further
on: hyphens, or a closing bracket. All other characters are a set of characters beyond ASCII. -/
def opened? (f : Flags) (cs : List Char) : Option (List Char) :=
  let (isOthers, cs) := match f.next cs with
    | '^' :: cs => (true, f.next cs)
    | cs => (false, cs)
  if isOthers ∧ !f.unicode then none
  else match cs with
    | '-' :: cs => some (f.dropWhile (· == '-') false cs)
    | ']' :: cs => some cs
    | _ => some cs

/-- The names of sets of ASCII characters. -/
def asciiSets : List String :=
  ["alnum", "alpha", "ascii", "blank", "cntrl", "digit", "graph", "lower", "print", "punct",
    "space", "upper", "word", "xdigit"]

/-- Reads a named set within a set, behind its opening bracket. -/
def namedSet? : List Char → Option (List Char)
  | ':' :: cs =>
    let cs := match cs with
      | '^' :: cs => cs
      | _ => cs
    let (name, rest) := cs.span (· != ':')
    match rest with
    | ':' :: ']' :: rest => if asciiSets.contains (String.ofList name) then some rest else none
    | _ => none
  | _ => none

/-- Reads the rest of a set in which sets are open, as many as `depth` says. -/
def set? (f : Flags) : (fuel : Nat) → (depth : Nat) → List Char → Option (List Char)
  | 0, _, _ => none
  | _, 0, cs => some cs
  | fuel + 1, depth + 1, cs =>
    match f.next cs with
    | [] => none
    | c :: cs =>
      if c = '[' then
        match namedSet? cs with
        | some rest => set? f fuel (depth + 1) rest
        | none => (opened? f cs).bind fun rest => set? f fuel (depth + 2) rest
      else if c = ']' then set? f fuel depth cs
      else if ['&', '-', '~'].contains c ∧ cs.head? = some c then
        set? f fuel (depth + 1) (cs.drop 1)
      else (range? f (c :: cs)).bind fun rest => set? f fuel (depth + 1) rest

/-! ## Groups -/

/-- What stands behind an opening parenthesis. -/
inductive Opening where
  | group (flags : Flags)
  | named (name : List Char)
  /-- Flags for the rest of the group around. -/
  | flags (flags : Flags)
  deriving DecidableEq, Repr

/-- Whether a text can name a group. -/
def isName : List Char → Bool
  | [] => false
  | c :: cs =>
    (c == '_' || Text.isAlphanumeric c && !c.isDigit) &&
      cs.all fun c => Text.isAlphanumeric c || ['_', '.', '[', ']'].contains c

/-- Reads the name of a group and the mark behind it. -/
def named? (cs : List Char) : Option (Opening × List Char) :=
  match cs.span (· != '>') with
  | (name, _ :: rest) => if isName name then some (.named name, rest) else none
  | _ => none

/-- Reads flags, each of which may be there once. Those behind a hyphen are taken away; there must
be one. -/
def flags? (f : Flags) (cs : List Char) : Option (Opening × List Char) :=
  let (text, rest) := cs.span fun c => c != ':' && c != ')'
  if text.all "imsUuRx-".toList.contains ∧ text.Nodup ∧ text.getLast? ≠ some '-' then
    let (given, taken) := text.span (· != '-')
    let flags := taken.foldl (·.set false ·) (given.foldl (·.set true ·) f)
    match rest with
    | ':' :: rest => some (.group flags, rest)
    | ')' :: rest => if text.isEmpty then none else some (.flags flags, rest)
    | _ => none
  else none

/-- Reads what stands behind an opening parenthesis. -/
def opening? (f : Flags) (cs : List Char) : Option (Opening × List Char) :=
  match f.next cs with
  | '?' :: 'P' :: '<' :: cs => named? cs
  | '?' :: '<' :: cs => named? cs
  | '?' :: cs => flags? f cs
  | cs => some (.group f, cs)

/-! ## Whole patterns -/

/-- How far a pattern is read. -/
structure Progress where
  flags : Flags := {}
  /-- The flags around the groups that are open, from the inside out. -/
  outer : List Flags := []
  /-- The names of groups. -/
  names : List (List Char) := []
  /-- Whether something stands here that can be repeated. -/
  repeatable : Bool := false

namespace Progress

/-- Behind something that can be repeated. -/
def item (p : Progress) : Progress :=
  { p with repeatable := true }

/-- Where nothing stands that can be repeated. -/
def fresh (p : Progress) : Progress :=
  { p with repeatable := false }

def enter (p : Progress) (flags : Flags) : Progress :=
  { p.fresh with flags, outer := p.flags :: p.outer }

/-- Behind an opening parenthesis and what belongs to it. -/
def take? (p : Progress) : Opening → Option Progress
  | .group flags => some (p.enter flags)
  | .named name =>
    if p.names.contains name then none
    else some { p.enter p.flags with names := name :: p.names }
  | .flags flags => some { p.fresh with flags }

/-- Behind a closing parenthesis. -/
def leave? (p : Progress) : Option Progress :=
  match p.outer with
  | flags :: outer => some { p.item with flags, outer }
  | [] => none

end Progress

/-- Reads the next piece of a pattern that begins with a character. -/
def piece? (p : Progress) (c : Char) (cs : List Char) : Option (Progress × List Char) :=
  if c = '(' then do
    let (opening, rest) ← opening? p.flags cs
    return (← p.take? opening, rest)
  else if c = ')' then p.leave?.map (·, cs)
  else if c = '|' then some (p.fresh, cs)
  else if c = '[' then do
    let rest ← set? p.flags (cs.length + 1) 1 (← opened? p.flags cs)
    if p.flags.hasLetters then some (p.item, rest) else none
  else if ['?', '*', '+'].contains c then
    if p.repeatable then some (p, if cs.head? = some '?' then cs.drop 1 else cs) else none
  else if c = '\x7b' then none
  else if c = '\\' then do
    let (escaped, rest) ← escaped? p.flags cs
    if p.flags.allow escaped then some (p.item, rest) else none
  else if c = '^' ∨ c = '$' then some (p.item, cs)
  else if c = '.' then if p.flags.unicode then some (p.item, cs) else none
  else if p.flags.hasLetters then some (p.item, cs)
  else none

/-- Whether the rest of a pattern can be read. -/
def readsOn : (fuel : Nat) → Progress → List Char → Bool
  | 0, _, _ => false
  | fuel + 1, p, cs =>
    match p.flags.next cs with
    | [] => p.outer.isEmpty
    | c :: cs =>
      match piece? p c cs with
      | some (p, rest) => readsOn fuel p rest
      | none => false

end Pattern

/-- Whether a text is a pattern. -/
def isPattern (cs : List Char) : Bool :=
  Pattern.readsOn (cs.length + 1) {} cs

/-- Whether the text of a field in a directive can be read: a name, and perhaps behind `=` a value.
What follows another `=` is passed over. -/
def isField (cs : List Char) : Bool :=
  match cs.splitOn '=' with
  | _ :: value :: _ => (Decimal.double? value).isSome || isPattern value
  | _ => true

end RowRelay.Log
