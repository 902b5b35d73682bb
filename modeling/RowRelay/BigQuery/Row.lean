import RowRelay.Base64
import RowRelay.Json.Parse
import RowRelay.PubSub.Message

/-!
# Rows

A payload is an object in JSON, in Base64; the object is the row. A row goes into a table under a
key that lets the warehouse drop a second insert of the same delivery.
-/

set_option autoImplicit false

namespace RowRelay.BigQuery

/-- A row: values by column name, sorted. -/
abbrev Row := List (String × Json.Value)

/-- A table by its full name. -/
structure TableRef where
  projectId : String
  datasetId : String
  tableId : String
  deriving DecidableEq, Repr

def TableRef.render (t : TableRef) : String :=
  s!"{t.projectId}.{t.datasetId}.{t.tableId}"

/-! ## Decoding -/

inductive DecodeError where
  | base64 (cause : Base64.Error)
  | json (cause : Json.Fault)
  | notAnObject (kind : String)

def DecodeError.message : DecodeError → String
  | .base64 cause => s!"payload is not valid base64: {cause.message}"
  | .json cause => s!"payload is not valid JSON: {cause.message}"
  | .notAnObject kind => s!"payload is JSON but not an object (found {kind})"

/-- The bytes that a payload carries. -/
def decodePayload (data : String) : Except DecodeError Bytes :=
  (Base64.decodeText data).mapError .base64

/-- The row that bytes spell. -/
def parseRow (bs : Bytes) : Except DecodeError Row :=
  match Json.parse bs with
  | .error fault => .error (.json fault)
  | .ok (.object members) => .ok members
  | .ok v => .error (.notAnObject v.kind)

/-- The row that a message carries. -/
def decodeRow (m : PubSub.Message) : Except DecodeError Row := do
  parseRow (← decodePayload m.data)

/-! ## Keys -/

/-- The key of one delivery. -/
structure IdempotencyKey where
  text : String
  deriving DecidableEq, Repr

namespace IdempotencyKey

/-- The key made from a number below 16^30: thirty hexadecimal digits in the groups of a random
identifier, with the digits that mark its version and variant. -/
def ofNumber (n : Nat) : IdempotencyKey :=
  let digits := Nat.toDigits 16 n
  let ds := List.replicate (30 - digits.length) '0' ++ digits
  let part (start count : Nat) : String := String.ofList ((ds.drop start).take count)
  ⟨s!"{part 0 8}-{part 8 4}-4{part 12 3}-8{part 15 3}-{part 18 12}"⟩

end IdempotencyKey

end RowRelay.BigQuery
