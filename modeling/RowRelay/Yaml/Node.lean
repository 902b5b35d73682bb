import RowRelay.Decimal.Read

/-!
# Nodes of a document in YAML

A document is a tree of sequences and mappings over scalars. A scalar written plainly, without
quotes and without a tag, is taken by its form: as nil, as a yes or no, as a number, or else as a
text. `Scalar.ofPlain` says which form is which.
-/

set_option autoImplicit false

namespace RowRelay.Yaml

/-- What a scalar stands for. A real number is kept as it is spelled. -/
inductive Scalar where
  | null
  | bool (b : Bool)
  | int (n : Int)
  | real (spelling : List Char)
  | text (cs : List Char)
  /-- The text does not fit the type that its tag asks for. -/
  | misfit
  deriving DecidableEq, Repr

inductive Node where
  | scalar (s : Scalar)
  | sequence (items : List Node)
  | mapping (entries : List (Node × Node))

/-- What stands where nothing is written. -/
def Node.empty : Node := .scalar .null

/-! ## Mappings -/

namespace Node

mutual

/-- Whether two nodes are the same, with their entries in the same order. -/
def same : Node → Node → Bool
  | .scalar s, .scalar t => s == t
  | .sequence items, .sequence others => sameItems items others
  | .mapping entries, .mapping others => sameEntries entries others
  | _, _ => false

def sameItems : List Node → List Node → Bool
  | [], [] => true
  | a :: as, b :: bs => same a b && sameItems as bs
  | _, _ => false

def sameEntries : List (Node × Node) → List (Node × Node) → Bool
  | [], [] => true
  | (k, v) :: rest, (k', v') :: rest' => same k k' && same v v' && sameEntries rest rest'
  | _, _ => false

end

/-- Whether a node stands for nothing that could be a key. -/
def isMisfit : Node → Bool
  | .scalar .misfit => true
  | _ => false

/-- Keys with their values, from the nodes of a mapping one after another. What cannot be a key is
left out, so that what follows it takes its place. -/
def pairUp : (key : Option Node) → List Node → List (Node × Node)
  | _, [] => []
  | none, node :: rest => pairUp (if node.isMisfit then none else some node) rest
  | some key, node :: rest => (key, node) :: pairUp none rest

/-- Whether no key is given twice. -/
def distinctKeys : List (Node × Node) → Bool
  | [] => true
  | (key, _) :: rest => !rest.any (same key ·.1) && distinctKeys rest

/-- The mapping that nodes make up one after another, unless it has a key twice. -/
def mapping? (parts : List Node) : Option Node :=
  let entries := pairUp none parts
  if distinctKeys entries then some (.mapping entries) else none

end Node

/-! ## Plain scalars -/

namespace Scalar

/-- The words for infinity and for no number. -/
def specialNumbers : List String :=
  [".inf", ".Inf", ".INF", "+.inf", "+.Inf", "+.INF", "-.inf", "-.Inf", "-.INF",
    ".nan", ".NaN", ".NAN"]

/-- Whether a text is taken as a real number: one of the special words, or the spelling of a
double with at least one digit. -/
def isReal (cs : List Char) : Bool :=
  specialNumbers.contains (String.ofList cs) ||
    (cs.any Char.isDigit && (Decimal.double? cs).isSome)

/-- A whole number of 64 bits: in hexadecimal digits after `0x`, in octal ones after `0o`, in
decimal ones after an optional sign. -/
def int? : List Char → Option Int
  | '0' :: 'x' :: digits => Decimal.signed64? 16 digits
  | '0' :: 'o' :: digits => Decimal.signed64? 8 digits
  | '+' :: digits => Decimal.signed64? 10 digits
  | cs => Decimal.signed64? 10 cs

/-- What a plain scalar stands for. -/
def ofPlain (cs : List Char) : Scalar :=
  match int? cs with
  | some n => .int n
  | none =>
    match String.ofList cs with
    | "" | "~" | "null" => .null
    | "true" | "True" | "TRUE" => .bool true
    | "false" | "False" | "FALSE" => .bool false
    | _ => if isReal cs then .real cs else .text cs

/-- What a plain scalar stands for whose tag names one of the core types. -/
def ofTagged (type : String) (cs : List Char) : Scalar :=
  match type with
  | "bool" =>
    match String.ofList cs with
    | "true" => .bool true
    | "false" => .bool false
    | _ => .misfit
  | "int" =>
    match Decimal.signed64? 10 cs with
    | some n => .int n
    | none => .misfit
  | "float" => if isReal cs then .real cs else .misfit
  | "null" => if cs = ['~'] ∨ cs = "null".toList then .null else .misfit
  | _ => .text cs

end Scalar

end RowRelay.Yaml
