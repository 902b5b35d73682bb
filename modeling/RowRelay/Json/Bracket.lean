import RowRelay.Json.Cursor

/-!
# Inside brackets

What may stand between the values of an array and the members of an object: a comma before each
but the first, and the closing bracket at the end.
-/

set_option autoImplicit false

namespace RowRelay.Json

/-- Inside brackets, either the closing one was read or another item begins at the cursor. -/
inductive Item where
  | closed (c : Cursor)
  | opened (c : Cursor)

/-- Goes to the next element of an array. -/
def nextElement (first : Bool) (c : Cursor) : Except Fault Item :=
  let c := c.skipBlanks
  match c.next? with
  | none => .error (c.faultAhead .unfinishedList)
  | some (b, after) =>
    if b = 93 then .ok (.closed after)
    else if first then .ok (.opened c)
    else if b = 44 then
      let c := after.skipBlanks
      match c.next? with
      | none => .error (c.faultAhead .unfinishedValue)
      | some (b, _) =>
        if b = 93 then .error (c.faultAhead .trailingComma) else .ok (.opened c)
    else .error (c.faultAhead .expectedListEnd)

/-- Goes behind the quote that opens the next key of an object. -/
def nextMember (first : Bool) (c : Cursor) : Except Fault Item :=
  let c := c.skipBlanks
  match c.next? with
  | none => .error (c.faultAhead .unfinishedObject)
  | some (b, after) =>
    if b = 125 then .ok (.closed after)
    else if first then
      if b = 34 then .ok (.opened after) else .error (c.faultAhead .keyNotString)
    else if b = 44 then
      let c := after.skipBlanks
      match c.next? with
      | none => .error (c.faultAhead .unfinishedValue)
      | some (b, after) =>
        if b = 34 then .ok (.opened after)
        else if b = 125 then .error (c.faultAhead .trailingComma)
        else .error (c.faultAhead .keyNotString)
    else .error (c.faultAhead .expectedObjectEnd)

/-- Reads the colon between a key and its value. -/
def colon (c : Cursor) : Except Fault Cursor :=
  let c := c.skipBlanks
  match c.next? with
  | none => .error (c.faultAhead .unfinishedObject)
  | some (b, after) => if b = 58 then .ok after else .error (c.faultAhead .expectedColon)

/-- The cursor at which an object is given up: behind its closing bracket, if that comes next. -/
def leaveObject (c : Cursor) : Cursor :=
  let c := c.skipBlanks
  match c.next? with
  | some (b, after) => if b = 125 then after else c
  | none => c

end RowRelay.Json
