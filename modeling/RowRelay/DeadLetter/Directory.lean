import RowRelay.Text.Utf8

/-!
# Making a directory

The store of dead letters makes its directory and all directories that lead to it. A path goes
through names and two points, which lead back out of a directory; a directory must be there before
a path can go through it, also to come back. `makeDirectory` tells why a directory cannot be made.
-/

set_option autoImplicit false

namespace RowRelay

/-! ## Faults -/

inductive DirectoryFault where
  /-- The path holds a NUL. -/
  | nul
  | tooLong
  /-- The path goes through a file. -/
  | notADirectory
  /-- A file stands where a directory should be. -/
  | fileExists
  /-- A directory is missing and cannot be made. -/
  | missing
  deriving DecidableEq, Repr

def DirectoryFault.message : DirectoryFault → String
  | .nul => "file name contained an unexpected NUL byte"
  | .tooLong => "File name too long (os error 36)"
  | .notADirectory => "Not a directory (os error 20)"
  | .fileExists => "File exists (os error 17)"
  | .missing => "No such file or directory (os error 2)"

/-! ## Places -/

/-- A place as names from the directory at hand on, or behind a slash from the root on. Two points
in front lead out of the directory at hand. -/
abbrev Place := List (List Char)

namespace Place

/-- The name of the directory that contains a directory. -/
def outward : List Char := ['.', '.']

def root : Place := [['/']]

/-- The names of a path. -/
def names (path : String) : Place :=
  (path.toList.splitOn '/').filter fun name => name != [] && name != ['.']

/-- Where a path begins. -/
def origin (path : String) : Place :=
  if path.startsWith "/" then root else []

/-- The directory that contains a place. -/
def above (p : Place) : Place :=
  match p.getLast? with
  | none => [outward]
  | some name => if name = outward then p ++ [outward] else if p = root then root else p.dropLast

/-- Files of every system. -/
def systemFiles : List Place :=
  ["/dev/null", "/dev/zero", "/dev/full", "/dev/random", "/dev/urandom", "/dev/tty",
    "/etc/passwd", "/etc/group", "/etc/hosts"].map fun path => root ++ names path

/-- The directory of processes, in which nothing can be made. -/
def sealed : Place := root ++ names "/proc"

end Place

/-! ## Directories -/

/-- The most bytes of a name and of a path. -/
def maxName : Nat := 255

def maxPath : Nat := 4095

def isLong (name : List Char) : Bool :=
  decide (maxName < (Utf8.encode name).length)

/-- The files there are, and the directories made so far. -/
structure Directories where
  files : List Place
  made : List Place := []

/-- Why a directory is not made. -/
inductive Refusal where
  | isThere
  | fault (cause : DirectoryFault)

namespace Directories

def hasFile (d : Directories) (p : Place) : Bool :=
  d.files.contains p

/-- Whether a place is a directory: one made, one that holds a file, or one around those. -/
def hasDirectory (d : Directories) (p : Place) : Bool :=
  d.made.contains p || p == Place.root || p == Place.sealed || p.all (· == Place.outward) ||
    d.files.any fun file => p.isPrefixOf file && p != file

/-- Goes through directories. -/
def walk (d : Directories) : Place → List (List Char) → Except DirectoryFault Place
  | p, [] => .ok p
  | p, name :: names =>
    if name = Place.outward then d.walk p.above names
    else if isLong name then .error .tooLong
    else
      let p := p ++ [name]
      if d.hasFile p then .error .notADirectory
      else if d.hasDirectory p then d.walk p names
      else .error .missing

/-- Makes the directory of the last name, which is the first of the names here. -/
def make (d : Directories) (origin : Place) (name : List Char) (outer : List (List Char)) :
    Except Refusal Directories :=
  match d.walk origin outer.reverse with
  | .error cause => .error (.fault cause)
  | .ok p =>
    let place := p ++ [name]
    if name = Place.outward then .error .isThere
    else if isLong name then .error (.fault .tooLong)
    else if d.hasFile place then .error (.fault .fileExists)
    else if d.hasDirectory place then .error .isThere
    else if Place.sealed.isPrefixOf place then .error (.fault .missing)
    else .ok { d with made := place :: d.made }

/-- Makes the directory of names, the last one first, and where it is missing the one around it
before. -/
def makeAll (d : Directories) (origin : Place) :
    List (List Char) → Except DirectoryFault Directories
  | [] => .ok d
  | name :: outer =>
    match d.make origin name outer with
    | .ok d => .ok d
    | .error .isThere => .ok d
    | .error (.fault .missing) => do
      let d ← d.makeAll origin outer
      match d.make origin name outer with
      | .ok d => .ok d
      | .error .isThere => .ok d
      | .error (.fault cause) => .error cause
    | .error (.fault cause) => .error cause

end Directories

/-- Makes the directory `inner` in that of a path, among files by their names. -/
def makeDirectory (files : List String) (path inner : String) : Except DirectoryFault Unit :=
  let whole := if path.isEmpty || path.endsWith "/" then path ++ inner else path ++ "/" ++ inner
  if path.toList.contains '\x00' then .error .nul
  else if maxPath < whole.utf8ByteSize then .error .tooLong
  else
    let d : Directories := ⟨files.map Place.names ++ Place.systemFiles, []⟩
    (d.makeAll (Place.origin path) (Place.names whole).reverse).map fun _ => ()

end RowRelay
