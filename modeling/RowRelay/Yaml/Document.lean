import RowRelay.Yaml.Node
import RowRelay.Yaml.Tokens

/-!
# Reading documents

`parse` reads the documents of a text: its tokens make up nodes. A node may have an anchor and a tag
in front, and an alias stands for the node that was last given its anchor. An alias inside the node
that it names stands for nothing.
-/

set_option autoImplicit false

namespace RowRelay.Yaml

/-- The tokens left to read, and the names known. -/
structure Reading where
  rest : List Token
  /-- What the handles of tags stand for. -/
  handles : List (List Char × List Char) := []
  /-- The anchors, the last first, each with its number. -/
  anchors : List (List Char × Nat) := []
  /-- The nodes with an anchor that are complete. -/
  nodes : List (Nat × Node) := []

namespace Reading

/-- Passes over a token. -/
def skip (r : Reading) : Reading :=
  { r with rest := r.rest.drop 1 }

def token? (r : Reading) : Option Token :=
  r.rest.head?

/-- Whether one of these tokens comes next. -/
def isAt (r : Reading) (ts : List Token) : Bool :=
  r.token?.any ts.contains

/-! ## Marks of a node -/

/-- What stands in front of a node: the number of its anchor, and its tag as the name of one of the
core types or the empty name for any other tag. -/
structure Marks where
  anchor : Option Nat := none
  tag : Option String := none

/-- What stands before the name of a core type in full. -/
def coreStem : List Char := "tag:yaml.org,2002:".toList

/-- The core type that a tag names. A handle between exclamation marks must have been declared. -/
def typeOf? (r : Reading) (handle suffix : List Char) : Option String :=
  let isCore (stem : List Char) : String :=
    if stem = coreStem then String.ofList suffix else ""
  match r.handles.lookup handle with
  | some stem => some (isCore stem)
  | none =>
    if handle = ['!', '!'] then some (isCore coreStem)
    else if isClosedHandle handle then none
    else some (isCore handle)

/-- Reads an anchor, if one comes next. -/
def takeAnchor (r : Reading) (m : Marks) : Marks × Reading :=
  match r.token? with
  | some (.anchor name _) =>
    let number := r.anchors.length
    ({ m with anchor := some number }, { r.skip with anchors := (name, number) :: r.anchors })
  | _ => (m, r)

/-- Reads a tag, if one comes next. -/
def takeTag (r : Reading) (m : Marks) : Option (Marks × Reading) :=
  match r.token? with
  | some (.tag handle suffix _) => do
    return ({ m with tag := some (← r.typeOf? handle suffix) }, r.skip)
  | _ => some (m, r)

/-- Reads an anchor and a tag in either order. -/
def takeMarks (r : Reading) : Option (Marks × Reading) := do
  let (m, r) := r.takeAnchor {}
  let hasAnchor := m.anchor.isSome
  let (m, r) ← r.takeTag m
  return if hasAnchor then (m, r) else r.takeAnchor m

/-- A complete node, which is remembered under its anchor. -/
def complete (r : Reading) (m : Marks) (node : Node) : Node × Reading :=
  (node, match m.anchor with
    | some number => { r with nodes := (number, node) :: r.nodes }
    | none => r)

/-- The node that an alias stands for. -/
def aliased? (r : Reading) (name : List Char) : Option Node := do
  let number ← r.anchors.lookup name
  return (r.nodes.lookup number).getD (.scalar .misfit)

/-- The node of marks with nothing behind them; there must be a mark. -/
def bare (r : Reading) (m : Marks) : Option (Node × Reading) :=
  match m.tag, m.anchor with
  | some type, _ => some (r.complete m (.scalar (.ofTagged type [])))
  | none, some _ => some (r.complete m (.scalar (.ofPlain [])))
  | none, none => none

/-! ## Nodes -/

mutual

/-- Reads a node. A collection without brackets may begin if `block`, a sequence whose dashes are
not indented only if `indentless`. -/
def node : (n : Nat) → (block indentless : Bool) → Reading → Option (Node × Reading)
  | 0, _, _, _ => none
  | n + 1, block, indentless, r =>
    match r.token? with
    | some (.alias name) => do return (← r.aliased? name, r.skip)
    | _ => do
      let (m, r) ← r.takeMarks
      match r.token? with
      | some (.scalar plain cs) =>
        let scalar := if !plain then .text cs else match m.tag with
          | some type => .ofTagged type cs
          | none => .ofPlain cs
        return r.skip.complete m (.scalar scalar)
      | some .flowSequence =>
        let (items, r) ← flowItems n true r.skip
        return r.complete m (.sequence items)
      | some .flowMapping =>
        let (parts, r) ← flowEntries n true r.skip
        return r.complete m (← Node.mapping? parts)
      | some .blockSequence =>
        if !block then none
        else
          let (items, r) ← blockItems n r.skip
          return r.complete m (.sequence items)
      | some .blockMapping =>
        if !block then none
        else
          let (parts, r) ← blockEntries n r.skip
          return r.complete m (← Node.mapping? parts)
      | some .blockEntry =>
        if indentless then
          let (items, r) ← indentlessItems n r
          return r.complete m (.sequence items)
        else r.bare m
      | _ => r.bare m

/-- Reads the items of a sequence in brackets. -/
def flowItems : (n : Nat) → (first : Bool) → Reading → Option (List Node × Reading)
  | 0, _, _ => none
  | n + 1, first, r =>
    if r.isAt [.flowSequenceEnd] then some ([], r.skip)
    else if !first && !r.isAt [.flowEntry] then none
    else
      let r := if first then r else r.skip
      if r.isAt [.flowSequenceEnd] then some ([], r.skip)
      else do
        let (item, r) ← if r.isAt [.key] then flowPair n r.skip else node n false false r
        let (items, r) ← flowItems n false r
        return (item :: items, r)

/-- Reads a mapping of one entry behind the mark of its key. Where the key is missing, the mark in
its place is passed over. -/
def flowPair : (n : Nat) → Reading → Option (Node × Reading)
  | 0, _ => none
  | n + 1, r => do
    let (key, r) ← if r.isAt [.value, .flowEntry, .flowSequenceEnd] then some (.empty, r.skip)
      else node n false false r
    let (value, r) ← if !r.isAt [.value] then some (.empty, r)
      else if r.skip.isAt [.flowEntry, .flowSequenceEnd] then some (.empty, r.skip)
      else node n false false r.skip
    return (← Node.mapping? [key, value], r)

/-- Reads the keys and values of a mapping in brackets. -/
def flowEntries : (n : Nat) → (first : Bool) → Reading → Option (List Node × Reading)
  | 0, _, _ => none
  | n + 1, first, r =>
    if r.isAt [.flowMappingEnd] then some ([], r.skip)
    else if !first && !r.isAt [.flowEntry] then none
    else
      let r := if first then r else r.skip
      if r.isAt [.flowMappingEnd] then some ([], r.skip)
      else do
        let (key, value, r) ←
          if r.isAt [.key] || r.isAt [.value] then do
            let bare := r.isAt [.value] || r.skip.isAt [.value, .flowEntry, .flowMappingEnd]
            let r := if r.isAt [.key] then r.skip else r
            let (key, r) ← if bare then some (.empty, r) else node n false false r
            let (value, r) ← flowValue n r
            some (key, value, r)
          else do
            let (key, r) ← node n false false r
            some (key, Node.empty, r)
        let (parts, r) ← flowEntries n false r
        return (key :: value :: parts, r)

/-- Reads the value behind a key in brackets, if there is one. -/
def flowValue : (n : Nat) → Reading → Option (Node × Reading)
  | 0, _ => none
  | n + 1, r =>
    if !r.isAt [.value] then some (.empty, r)
    else if r.skip.isAt [.flowEntry, .flowMappingEnd] then some (.empty, r.skip)
    else node n false false r.skip

/-- Reads the items of an indented sequence. -/
def blockItems : (n : Nat) → Reading → Option (List Node × Reading)
  | 0, _ => none
  | n + 1, r =>
    if r.isAt [.blockEnd] then some ([], r.skip)
    else if r.isAt [.blockEntry] then do
      let r := r.skip
      let (item, r) ← if r.isAt [.blockEntry, .blockEnd] then some (.empty, r)
        else node n true false r
      let (items, r) ← blockItems n r
      return (item :: items, r)
    else none

/-- Reads the items of a sequence that is not indented, up to something else. -/
def indentlessItems : (n : Nat) → Reading → Option (List Node × Reading)
  | 0, _ => none
  | n + 1, r =>
    if r.isAt [.blockEntry] then do
      let r := r.skip
      let (item, r) ← if r.isAt [.blockEntry, .key, .value, .blockEnd] then some (.empty, r)
        else node n true false r
      let (items, r) ← indentlessItems n r
      return (item :: items, r)
    else some ([], r)

/-- Reads the keys and values of an indented mapping. -/
def blockEntries : (n : Nat) → Reading → Option (List Node × Reading)
  | 0, _ => none
  | n + 1, r =>
    if r.isAt [.blockEnd] then some ([], r.skip)
    else if r.isAt [.key] || r.isAt [.value] then do
      let (key, r) ← if r.isAt [.value] then some (.empty, r) else blockPart n r.skip
      let (value, r) ← if r.isAt [.value] then blockPart n r.skip else some (.empty, r)
      let (parts, r) ← blockEntries n r
      return (key :: value :: parts, r)
    else none

/-- Reads the key or the value behind its mark, if there is one. -/
def blockPart : (n : Nat) → Reading → Option (Node × Reading)
  | 0, _ => none
  | n + 1, r =>
    if r.isAt [.key, .value, .blockEnd] then some (.empty, r) else node n true true r

end

/-! ## Documents -/

/-- Reads directives, of which the last alone counts; the version must not be named twice. -/
def directives (versions : Nat) : List Token → Reading → Option Reading
  | .version :: rest, r =>
    if versions = 0 then directives (versions + 1) rest { r with rest, handles := [] } else none
  | .handle name stem :: rest, r =>
    directives versions rest { r with rest, handles := [(name, stem)] }
  | rest, r => some { r with rest }

/-- Whether a directive comes next. -/
def isAtDirective (r : Reading) : Bool :=
  match r.token? with
  | some .version | some (.handle ..) => true
  | _ => false

/-- More than the calls that reading a node takes, one inside the other. -/
def budget (r : Reading) : Nat :=
  4 * r.rest.length + 4

/-- Reads a document that begins with three dashes, perhaps behind directives. -/
def explicitDocument (r : Reading) : Option (Node × Reading) := do
  let r ← r.directives 0 r.rest
  if !r.isAt [.documentStart] then none
  else
    let r := r.skip
    if r.isAtDirective || r.isAt [.documentStart, .documentEnd] || r.rest.isEmpty then
      return (.empty, r)
    else node r.budget true false r

/-- Reads the documents left; `n` bounds their number. Only the first one, and one behind three
dots, may begin without dashes, and only they may have directives. -/
def documents : (n : Nat) → (first : Bool) → Reading → Option (List Node)
  | 0, _, _ => none
  | n + 1, first, r => do
    let r := { r with rest := r.rest.dropWhile (· == Token.documentEnd) }
    if r.rest.isEmpty then return []
    else
      let (document, r) ←
        if !first || r.isAtDirective || r.isAt [.documentStart] then r.explicitDocument
        else node r.budget true false r
      let ended := r.isAt [.documentEnd]
      if !ended && r.isAtDirective then none
      else return document :: (← documents n ended { rest := r.rest })

end Reading

/-- The documents of a text. -/
def parse (cs : List Char) : Option (List Node) := do
  let ts ← tokens? cs
  Reading.documents (ts.length + 1) true { rest := ts }

end RowRelay.Yaml
