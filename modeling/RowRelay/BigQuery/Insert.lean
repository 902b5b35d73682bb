import RowRelay.BigQuery.Row

/-!
# Inserting a row

The body of an insert, the answer to it, and what can go wrong. An answer that lists errors
refuses the row; the list is put into words, one part for each error.
-/

set_option autoImplicit false

namespace RowRelay.BigQuery

open Json (Value Shape)

/-! ## Errors -/

inductive InsertError where
  /-- Failures that might pass kept happening until no attempt was left. -/
  | exhausted (attempts : Nat) (last : String)
  /-- The request was refused. -/
  | status (code : Nat) (body : String)
  /-- The request was taken and its row refused. -/
  | rejected (reason : String)
  | other (text : String)
  deriving DecidableEq, Repr

def InsertError.message : InsertError → String
  | .exhausted attempts last => s!"insert gave up after {attempts} attempts: {last}"
  | .status code body => s!"insert returned HTTP {code}: {body}"
  | .rejected reason => s!"row rejected: {reason}"
  | .other text => text

/-- Whether the fault lies with the row alone. -/
def InsertError.isRowLevel : InsertError → Bool
  | .rejected _ => true
  | _ => false

/-! ## Request -/

/-- The body of an insert of one row. -/
def insertRequest (key : IdempotencyKey) (row : Row) : Value :=
  .object [("rows", .array [.object [("insertId", .string key.text), ("json", .object row)]])]

/-! ## Answer -/

/-- One error of a row. -/
structure ErrorDetail where
  reason : String
  location : String
  text : String
  deriving DecidableEq, Repr

def ErrorDetail.shape : Shape ErrorDetail where
  name := "ErrorProto"
  empty := ⟨"", "", ""⟩
  fields := [
    ⟨"reason", .defaulted, fun e n c => do
      let (x, c) ← Json.readString n c
      return ({ e with reason := x }, c)⟩,
    ⟨"location", .defaulted, fun e n c => do
      let (x, c) ← Json.readString n c
      return ({ e with location := x }, c)⟩,
    ⟨"message", .defaulted, fun e n c => do
      let (x, c) ← Json.readString n c
      return ({ e with text := x }, c)⟩]

/-- The errors of one row, named by its index in the request. -/
structure RowErrors where
  index : Nat
  errors : List ErrorDetail
  deriving DecidableEq, Repr

def RowErrors.shape : Shape RowErrors where
  name := "RowInsertErrors"
  empty := ⟨0, []⟩
  fields := [
    ⟨"index", .defaulted, fun e n c => do
      let (x, c) ← Json.readInt 0 (UInt32.size - 1) "u32" n c
      return ({ e with index := x.toNat }, c)⟩,
    ⟨"errors", .defaulted, fun e n c => do
      let (x, c) ← Json.readList ErrorDetail.shape.read n c
      return ({ e with errors := x }, c)⟩]

/-- The whole answer, the errors of the rows refused. -/
def responseShape : Shape (List RowErrors) where
  name := "InsertAllResponse"
  empty := []
  fields := [⟨"insertErrors", .defaulted, fun _ n c => Json.readList RowErrors.shape.read n c⟩]

def ErrorDetail.describe (index : Nat) (e : ErrorDetail) : String :=
  if e.location = "" then s!"row {index}: {e.text} ({e.reason})"
  else s!"row {index}: {e.location}: {e.text} ({e.reason})"

def RowErrors.describe (row : RowErrors) : List String :=
  row.errors.map (ErrorDetail.describe row.index)

/-- Why the row was refused, if the answer lists anything at all. -/
def rejection? (rows : List RowErrors) : Option String :=
  if rows.isEmpty then none else some ("; ".intercalate (rows.flatMap RowErrors.describe))

end RowRelay.BigQuery
