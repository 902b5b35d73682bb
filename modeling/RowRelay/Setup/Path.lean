import RowRelay.Decimal.Read
import RowRelay.Setup.Tree

/-!
# Paths into a setup

The name of a setting as a file or a variable spells it: names with points between them and
positions of list items in brackets, `a.b[0]`. `Tree.put` lays a value over what a path leads to
and makes the tables and lists on the way. A name that is no path is one key as it stands.
-/

set_option autoImplicit false

namespace RowRelay.Setup

/-- A step of a path. A negative position counts from the end of a list. -/
inductive Step where
  | key (name : String)
  | index (i : Int)
  deriving DecidableEq, Repr

abbrev Path := List Step

/-! ## Reading paths -/

namespace Path

def isNameChar (c : Char) : Bool :=
  c.isAlphanum || c == '_' || c == '-'

/-- The position that the text between two brackets spells. -/
def index? (cs : List Char) : Option Int :=
  let isGap (c : Char) : Bool := c == ' ' || c == '\t'
  let core := ((cs.dropWhile isGap).reverse.dropWhile isGap).reverse
  match core with
  | '+' :: _ => none
  | _ => Decimal.signed64? 10 core

/-- What is being read: a name, a position, or nothing right after a position. -/
inductive Place where
  | name (read : List Char)
  | index (read : List Char)
  | gap

/-- Takes one more character; the steps read so far and the piece at hand come last first. -/
def read : Path × Place → Char → Option (Path × Place)
  | (steps, .name cs), c =>
    if isNameChar c then some (steps, .name (c :: cs))
    else if cs.isEmpty then none
    else
      let steps := .key (String.ofList cs.reverse) :: steps
      if c = '.' then some (steps, .name [])
      else if c = '[' then some (steps, .index [])
      else none
  | (steps, .index cs), c =>
    if c = ']' then (index? cs.reverse).map fun i => (.index i :: steps, .gap)
    else some (steps, .index (c :: cs))
  | (steps, .gap), c =>
    if c = '.' then some (steps, .name [])
    else if c = '[' then some (steps, .index [])
    else none

/-- The path that a text spells. -/
def parse? (s : String) : Option Path := do
  match ← s.toList.foldlM read ([], .name []) with
  | (steps, .name (c :: cs)) => some ((Step.key (String.ofList (c :: cs).reverse) :: steps).reverse)
  | (steps, .gap) => some steps.reverse
  | _ => none

/-- The path of a setting by its name. -/
def ofName (name : String) : Path :=
  (parse? name).getD [.key name]

end Path

/-! ## Going along a path -/

namespace Tree

/-- Items with at least `n` places, and the position that `i` stands for among them. New places
are added behind, or in front when the list is too short to count back so far. -/
def placeFor (items : List Tree) (i : Int) : List Tree × Nat :=
  if 0 ≤ i then (items ++ List.replicate (i.toNat + 1 - items.length) blank, i.toNat)
  else
    let back := i.natAbs
    (List.replicate (back - items.length) blank ++ items, items.length - back)

/-- Changes what steps lead to. Whatever cannot be stepped into gives way to a table or list. -/
def change (f : Tree → Tree) : Path → Tree → Tree
  | [], t => f t
  | .key name :: path, t =>
    .table t.tableOrigin (Json.Members.insert name (change f path (t.get name)) t.entries)
  | .index i :: path, t =>
    let (items, place) := placeFor t.items i
    .list t.listOrigin (items.modify place (change f path))

/-- Lays a value over what a path leads to. -/
def put (t : Tree) (path : Path) (value : Tree) : Tree :=
  t.change (fun old => old.overlay value) path

/-- Lays named values over a tree, in their order. -/
def putAll (t : Tree) (values : List (String × Tree)) : Tree :=
  values.foldl (fun t (name, value) => t.put (.ofName name) value) t

end Tree

end RowRelay.Setup
