import RowRelay.Json.Bracket
import RowRelay.Json.Skip

/-!
# Reading into a given type

A record is read from an object of its fields in any order, or from an array of them in the order
of their declaration. Keys that are not fields are passed over. A fault about the fields as a whole
is placed where the innermost bracket around it is given up.
-/

set_option autoImplicit false

namespace RowRelay.Json

/-! ## Scalars and lists -/

/-- The fault that a value of another type than expected makes. A scalar is read first and may
itself be at fault. -/
def unexpected (expected : String) (n : Nat) (c : Cursor) : Fault :=
  let invalid (found : Found) (c : Cursor) : Fault := c.fault (.invalidType found expected)
  let judge (found : Except Fault (Found × Cursor)) : Fault :=
    match found with
    | .ok (found, c) => invalid found c
    | .error fault => fault
  match c.next? with
  | none => c.faultAhead .unfinishedValue
  | some (b, after) =>
    if b = 110 then judge ((word (Bytes.ofAscii "ull") after).map (Found.null, ·))
    else if b = 116 then judge ((word (Bytes.ofAscii "rue") after).map (Found.bool true, ·))
    else if b = 102 then judge ((word (Bytes.ofAscii "alse") after).map (Found.bool false, ·))
    else if b = 45 then judge ((number true after).map fun (x, c) => (.number x, c))
    else if isDigit b then judge ((number false c).map fun (x, c) => (.number x, c))
    else if b = 34 then judge ((stringBody n after).map fun (s, c) => (.string s, c))
    else if b = 91 then invalid .sequence c
    else if b = 123 then invalid .map c
    else c.faultAhead .expectedValue

def readString : Reader String := fun n c =>
  let c := c.skipBlanks
  match c.next? with
  | some (34, after) => stringBody n after
  | _ => .error (unexpected "a string" n c)

/-- Reads a whole number between two bounds; `expected` names its type. -/
def readInt (least greatest : Int) (expected : String) : Reader Int := fun n c =>
  let c := c.skipBlanks
  let judge (x : Number × Cursor) : Except Fault (Int × Cursor) :=
    match x with
    | (.int i, c) =>
      if least ≤ i ∧ i ≤ greatest then .ok (i, c)
      else .error (c.fault (.invalidValue (.number (.int i)) expected))
    | (x, c) => .error (c.fault (.invalidType (.number x) expected))
  match c.next? with
  | some (b, after) =>
    if b = 45 then do judge (← number true after)
    else if isDigit b then do judge (← number false c)
    else .error (unexpected expected n c)
  | none => .error (unexpected expected n c)

/-- Reads `null` as nothing, and anything else as a value. -/
def readOption {α : Type} (read : Reader α) : Reader (Option α) := fun n c =>
  let c := c.skipBlanks
  match c.next? with
  | some (110, after) => do return (none, ← word (Bytes.ofAscii "ull") after)
  | _ => do
    let (x, c) ← read n c
    return (some x, c)

/-- Reads the elements of a list behind its bracket; `seen` holds those read, last first. -/
def readElements {α : Type} (read : Reader α) :
    Nat → (first : Bool) → Cursor → (seen : List α) → Except Fault (List α × Cursor)
  | 0, _, c, _ => .error (c.fault .tooDeep)
  | n + 1, first, c, seen => do
    match ← nextElement first c with
    | .closed c => return (seen.reverse, c)
    | .opened c =>
      let (x, c) ← read n c
      readElements read n false c (x :: seen)

def readList {α : Type} (read : Reader α) : Reader (List α) := fun n c =>
  let c := c.skipBlanks
  match c.next? with
  | some (91, after) => readElements read n true after []
  | _ => .error (unexpected "a sequence" n c)

/-- Reads the entries of a map behind its bracket. -/
def readEntries {α : Type} (read : Reader α) :
    Nat → (first : Bool) → Cursor → (seen : List (String × α)) →
      Except Fault (List (String × α) × Cursor)
  | 0, _, c, _ => .error (c.fault .tooDeep)
  | n + 1, first, c, seen => do
    match ← nextMember first c with
    | .closed c => return (seen, c)
    | .opened c =>
      let (key, c) ← stringBody n c
      let (x, c) ← read n (← colon c)
      readEntries read n false c (Members.insert key x seen)

/-- Reads an object of values of one type, sorted by key; of entries with one key the last
counts. -/
def readMap {α : Type} (read : Reader α) : Reader (List (String × α)) := fun n c =>
  let c := c.skipBlanks
  match c.next? with
  | some (123, after) => readEntries read n true after []
  | _ => .error (unexpected "a map" n c)

/-! ## Records -/

/-- Whether a field may be left out: never, in an object, or also at the end of an array. -/
inductive Presence where
  | required
  | optional
  | defaulted
  deriving DecidableEq

/-- A field of a record: reading its value fills it in. -/
structure Field (α : Type) where
  name : String
  presence : Presence
  read : α → Reader α

/-- A record type: its name, the record with every field left out, and the fields in order. -/
structure Shape (α : Type) where
  name : String
  empty : α
  fields : List (Field α)

namespace Shape

variable {α : Type}

def describe (shape : Shape α) : String :=
  s!"struct {shape.name}"

/-- What the array form should have had. -/
def describeArray (shape : Shape α) : String :=
  let count := shape.fields.length
  s!"{shape.describe} with {count} " ++ if count = 1 then "element" else "elements"

/-- The first field that was not read and may not be left out. -/
def missing? (shape : Shape α) (seen : List String) : Option String :=
  (shape.fields.find? fun f => f.presence = .required ∧ f.name ∉ seen).map (·.name)

/-- Reads the members of an object behind its bracket; `seen` names the fields read. -/
def readMembers (shape : Shape α) :
    Nat → (first : Bool) → Cursor → (seen : List String) → α → Except Fault (α × Cursor)
  | 0, _, c, _, _ => .error (c.fault .tooDeep)
  | n + 1, first, c, seen, record => do
    match ← nextMember first c with
    | .closed c =>
      match shape.missing? seen with
      | some name => throw (c.fault (.missingField name))
      | none => return (record, c)
    | .opened c =>
      let (key, c) ← stringBody n c
      match shape.fields.find? (·.name = key) with
      | some field =>
        if key ∈ seen then throw ((leaveObject c).fault (.duplicateField key))
        let (record, c) ← field.read record n (← colon c)
        readMembers shape n false c (key :: seen) record
      | none =>
        let c ← skip n [] (← colon c)
        readMembers shape n false c seen record

/-- Reads the end of an array that has had all its fields. -/
def closeArray (c : Cursor) : Except Fault Cursor :=
  let c := c.skipBlanks
  match c.next? with
  | none => .error (c.faultAhead .unfinishedList)
  | some (b, after) =>
    if b = 93 then .ok after
    else if b = 44 then
      let c := after.skipBlanks
      match c.next? with
      | some (93, _) => .error (c.faultAhead .trailingComma)
      | _ => .error (c.faultAhead .trailingCharacters)
    else .error (c.faultAhead .trailingCharacters)

/-- Reads the given fields from an array; `index` of them came before. A shorter array leaves the
rest out if all of them have a default. -/
def readFields (shape : Shape α) (n : Nat) :
    List (Field α) → (index : Nat) → Cursor → α → Except Fault (α × Cursor)
  | [], _, c, record => do return (record, ← closeArray c)
  | field :: fields, index, c, record => do
    match ← nextElement (index == 0) c with
    | .opened c =>
      let (record, c) ← field.read record n c
      readFields shape n fields (index + 1) c record
    | .closed c =>
      match (field :: fields).findIdx? (·.presence ≠ .defaulted) with
      | some k => throw (c.fault (.invalidLength (index + k) shape.describeArray))
      | none => return (record, c)

/-- Reads a record in either form. -/
def read (shape : Shape α) : Reader α := fun n c =>
  let c := c.skipBlanks
  match c.next? with
  | some (91, after) => shape.readFields n shape.fields 0 after shape.empty
  | some (123, after) => shape.readMembers n true after [] shape.empty
  | _ => .error (unexpected shape.describe n c)

end Shape

end RowRelay.Json
