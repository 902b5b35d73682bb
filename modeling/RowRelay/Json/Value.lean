/-!
# JSON values

A value as the relay holds it. Members of an object are kept sorted by key, one for each key;
`Members.insert` keeps them so and lets a later value replace an earlier one.
-/

set_option autoImplicit false

namespace RowRelay.Json

/-- A whole number between -2^63 and 2^64 - 1 stays whole; every other number is a double. -/
inductive Number where
  | int (n : Int)
  | float (x : Float)

inductive Value where
  | null
  | bool (b : Bool)
  | number (n : Number)
  | string (s : String)
  | array (vs : List Value)
  | object (members : List (String × Value))

instance : Inhabited Value := ⟨.null⟩

/-- What a value is called in a message. -/
def Value.kind : Value → String
  | .null => "null"
  | .bool _ => "boolean"
  | .number _ => "number"
  | .string _ => "string"
  | .array _ => "array"
  | .object _ => "object"

/-! ## Members -/

namespace Members

/-- Sets the value of a key in members sorted by key. -/
def insert {α : Type} (key : String) (value : α) : List (String × α) → List (String × α)
  | [] => [(key, value)]
  | (k, v) :: rest =>
    if key < k then (key, value) :: (k, v) :: rest
    else if key = k then (key, value) :: rest
    else (k, v) :: insert key value rest

/-- Sorted members from members in any order, the last one of each key. -/
def ofList {α : Type} (members : List (String × α)) : List (String × α) :=
  members.foldl (fun ms (k, v) => insert k v ms) []

end Members

end RowRelay.Json
