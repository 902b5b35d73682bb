import RowRelay.Json.Parse
import RowRelay.Setup.Fault
import RowRelay.Yaml.Document

/-!
# Setup files

Which file holds the setup, and how it is read. The file is named with its extension or without;
without one, the extensions are tried in a fixed order. The text of a file is UTF-8, perhaps with
a byte order mark; what is no UTF-8 is replaced. Its root is a table. JSON and YAML are read here,
and the other formats by readers that are given.
-/

set_option autoImplicit false

namespace RowRelay.Setup

/-! ## Finding the file -/

/-- The formats that other libraries read. -/
inductive ForeignFormat where
  | toml
  | ini
  | ron
  | json5
  deriving DecidableEq, Repr

inductive Format where
  | json
  | yaml
  | foreign (format : ForeignFormat)
  deriving DecidableEq, Repr

/-- The extensions of setup files, in the order in which they are tried. -/
def extensions : List (String × Format) :=
  [("toml", .foreign .toml), ("json", .json), ("yaml", .yaml), ("yml", .yaml),
    ("ini", .foreign .ini), ("ron", .foreign .ron), ("json5", .foreign .json5)]

/-- Files by their names. -/
abbrev Folder := List (String × Bytes)

/-- The parts of a path between its slashes, without those at its end that lead nowhere. -/
def pathParts (path : String) : List (List Char) :=
  let parts := path.toList.splitOn '/'
  (parts.reverse.dropWhile fun part => part = [] || part = ['.']).reverse

/-- The name of the file of the folder that a path leads to, if it leads into no other folder. A
slash at the end, also with a point behind it, asks for a folder. -/
def nameInFolder? (path : String) : Option String :=
  match (path.toList.splitOn '/').reverse with
  | name :: steps =>
    let isHere := steps.all fun step => step = [] || step = ['.']
    if isHere && !path.startsWith "/" then some (String.ofList name) else none
  | [] => none

/-- The content of the file that a path leads to. -/
def Folder.read? (folder : Folder) (path : String) : Option (String × Bytes) := do
  let name ← nameInFolder? path
  return (name, ← folder.lookup name)

/-- A file name divided at its last point. A point that comes first divides nothing. -/
def splitExtension (name : List Char) : List Char × Option (List Char) :=
  let tail := (name.reverse.takeWhile (· != '.')).reverse
  if tail.length + 1 < name.length then (name.take (name.length - tail.length - 1), some tail)
  else (name, none)

/-- The extension of the file name that a path ends with. -/
def extension? (path : String) : Option String := do
  let name ← (pathParts path).getLast?
  return String.ofList (← (splitExtension name).2)

/-- A path with another extension, and without what leads nowhere behind its file name. -/
def withExtension? (path extension : String) : Option String :=
  match (pathParts path).reverse with
  | name :: steps =>
    if name = ['.', '.'] then none
    else
      let name := (splitExtension name).1 ++ '.' :: extension.toList
      some (String.ofList (List.intercalate ['/'] (name :: steps).reverse))
  | [] => none

/-- A file of a folder. -/
structure SetupFile where
  name : String
  format : Format
  content : Bytes

/-- What is put behind a path that has an extension, to be replaced by another one. -/
def spareExtension : String := ".placeholder"

/-- The first of the files with one of the extensions in place of that of the path. -/
def firstExtended (folder : Folder) (path : String) : Option SetupFile :=
  extensions.findSome? fun (extension, format) => do
    let (name, content) ← folder.read? (← withExtension? path extension)
    return ⟨name, format, content⟩

/-- The file that a path stands for. A file of just that name is the only one considered, and
counts if its extension is known. An extension that the path has is kept before those tried. -/
def findFile? (folder : Folder) (path : String) : Option SetupFile :=
  match folder.read? path with
  | some (name, content) => do
    let format ← extensions.lookup (← extension? name)
    return ⟨name, format, content⟩
  | none => firstExtended folder (if (extension? path).isSome then path ++ spareExtension else path)

/-! ## Reading JSON -/

mutual

/-- A value in JSON as a tree that comes from a file. -/
def Tree.ofJson (origin : String) : Json.Value → Tree
  | .null => .scalar (some origin) .nil
  | .bool b => .scalar (some origin) (.flag b)
  | .number (.int n) => .scalar (some origin) (.int n)
  | .number (.float x) => .scalar (some origin) (.float x)
  | .string s => .scalar (some origin) (.text s)
  | .array vs => .list (some origin) (treesOfJson origin vs)
  | .object members => .table (some origin) (entriesOfJson origin members)

def treesOfJson (origin : String) : List Json.Value → List Tree
  | [] => []
  | v :: rest => Tree.ofJson origin v :: treesOfJson origin rest

def entriesOfJson (origin : String) : List (String × Json.Value) → List (String × Tree)
  | [] => []
  | (key, v) :: rest => (key, Tree.ofJson origin v) :: entriesOfJson origin rest

end

/-! ## Reading YAML -/

/-- A scalar as a value of a setup, unless it is a number that no double can be read from. -/
def Scalar.ofYaml? : Yaml.Scalar → Option Scalar
  | .null | .misfit => some .nil
  | .bool b => some (.flag b)
  | .int n => some (.int n)
  | .real spelling => (Decimal.double? spelling).map .float
  | .text cs => some (.text (String.ofList cs))

/-- The key that a scalar spells. -/
def keyOfYaml? : Yaml.Node → Option String
  | .scalar (.bool b) => some (if b then "true" else "false")
  | .scalar (.int n) => some (String.ofList (Json.writeInt n))
  | .scalar (.real spelling) => some (String.ofList spelling)
  | .scalar (.text cs) => some (String.ofList cs)
  | _ => none

mutual

/-- A node as a tree that comes from a file. A key must be a scalar other than nil. -/
def Tree.ofYaml? (origin : String) : Yaml.Node → Option Tree
  | .scalar s => (Scalar.ofYaml? s).map (.scalar (some origin))
  | .sequence items => (treesOfYaml? origin items).map (.list (some origin))
  | .mapping entries =>
    (entriesOfYaml? origin entries).map fun es =>
      .table (some origin) (Json.Members.ofList es)

def treesOfYaml? (origin : String) : List Yaml.Node → Option (List Tree)
  | [] => some []
  | node :: rest => do
    let t ← Tree.ofYaml? origin node
    let ts ← treesOfYaml? origin rest
    return t :: ts

def entriesOfYaml? (origin : String) :
    List (Yaml.Node × Yaml.Node) → Option (List (String × Tree))
  | [] => some []
  | (key, node) :: rest => do
    let name ← keyOfYaml? key
    let t ← Tree.ofYaml? origin node
    let es ← entriesOfYaml? origin rest
    return (name, t) :: es

end

/-! ## Reading a file -/

/-- The text of a file, without a byte order mark. -/
def textOf : Bytes → String
  | 0xEF :: 0xBB :: 0xBF :: rest => Utf8.decodeLossy rest
  | bs => Utf8.decodeLossy bs

/-- The tree that a text in YAML holds. A text without documents is an empty table. -/
def treeOfYaml (origin : String) (cs : List Char) : Except FileFault Tree :=
  match Yaml.parse cs with
  | some [] => .ok (.table none [])
  | some [node] =>
    match Tree.ofYaml? origin node with
    | some t => .ok t
    | none => .error .malformed
  | _ => .error .malformed

/-- The libraries for the formats that are not read here: for each the tree that a text holds,
coming from a file of that name, or what is wrong with the text. -/
abbrev Readers := ForeignFormat → (origin text : String) → Except String Tree

/-- Readers for whom every text is wrong. -/
def refusing : Readers := fun _ _ _ => .error "the format is not supported"

/-- The tree that a file holds. -/
def SetupFile.tree (readers : Readers) (file : SetupFile) : Except FileFault Tree :=
  let s := textOf file.content
  match file.format with
  | .json =>
    match Json.parse (Utf8.ofString s) with
    | .ok v => .ok (.ofJson file.name v)
    | .error fault => .error (.json fault)
  | .yaml => treeOfYaml file.name s.toList
  | .foreign format => (readers format file.name s).mapError .foreign

/-- The settings that a file names, in the order of their names. -/
def SetupFile.values (readers : Readers) (file : SetupFile) :
    Except Fault (List (String × Tree)) :=
  match file.tree readers with
  | .ok (.table _ es) => .ok es
  | .ok t => .error (.unreadable file.name (.root t.describe))
  | .error cause => .error (.unreadable file.name cause)

end RowRelay.Setup
