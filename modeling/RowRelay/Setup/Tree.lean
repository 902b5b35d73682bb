import RowRelay.Json.Value

/-!
# The values of a setup

What setup files and environment variables say, before it is known what is asked for: a tree of
tables, lists and scalars, each with the place it comes from. `Tree.overlay` lays one tree over
another: tables merge key by key, and everything else takes the place of what was there.
-/

set_option autoImplicit false

namespace RowRelay.Setup

/-- A whole number lies between -2^63 and 2^64 - 1. -/
inductive Scalar where
  | nil
  | flag (b : Bool)
  | int (n : Int)
  | float (x : Float)
  | text (s : String)

/-- A tree with the origin of each part. The entries of a table are sorted by key. -/
inductive Tree where
  | scalar (origin : Option String) (value : Scalar)
  | list (origin : Option String) (items : List Tree)
  | table (origin : Option String) (entries : List (String × Tree))

namespace Tree

/-- What stands where nothing was given. -/
def blank : Tree := .scalar none .nil

def empty : Tree := .table none []

def origin : Tree → Option String
  | .scalar o _ => o
  | .list o _ => o
  | .table o _ => o

/-- The entries of a table; other trees have none. -/
def entries : Tree → List (String × Tree)
  | .table _ es => es
  | _ => []

/-- The items of a list; other trees have none. -/
def items : Tree → List Tree
  | .list _ ts => ts
  | _ => []

/-- The origin of a tree that goes on as a table, if it is one already. -/
def tableOrigin : Tree → Option String
  | .table o _ => o
  | _ => none

/-- The origin of a tree that goes on as a list, if it is one already. -/
def listOrigin : Tree → Option String
  | .list o _ => o
  | _ => none

/-- What stands under a key. -/
def get (t : Tree) (key : String) : Tree :=
  (t.entries.lookup key).getD blank

/-! ## Laying one tree over another -/

mutual

/-- The second tree laid over the first. A table that has merged has no origin of its own. -/
def overlay (base : Tree) : Tree → Tree
  | .table _ es => .table base.tableOrigin (overlayEntries base.entries es)
  | .scalar o v => .scalar o v
  | .list o ts => .list o ts

/-- Entries laid over those of a table, one by one. -/
def overlayEntries (base : List (String × Tree)) : List (String × Tree) → List (String × Tree)
  | [] => base
  | (key, t) :: rest =>
    overlayEntries (Json.Members.insert key (overlay ((base.lookup key).getD blank) t) base) rest

end

end Tree

end RowRelay.Setup
