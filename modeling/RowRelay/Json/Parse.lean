import RowRelay.Json.Bracket
import RowRelay.Json.Numeral
import RowRelay.Json.Scan

/-!
# Reading values

`Json.parse` reads a whole text as one value. Arrays and objects may be nested 127 deep. Of
members with one key the last counts.
-/

set_option autoImplicit false

namespace RowRelay.Json

/-- How many arrays and objects may be open at once. -/
def maxDepth : Nat := 127

mutual

/-- Reads a value; `depth` more arrays and objects may be opened. -/
def value : Nat → (depth : Nat) → Cursor → Except Fault (Value × Cursor)
  | 0, _, c => .error (c.fault .tooDeep)
  | n + 1, depth, c =>
    let c := c.skipBlanks
    match c.next? with
    | none => .error (c.faultAhead .unfinishedValue)
    | some (b, after) =>
      if b = 110 then do return (.null, ← word (Bytes.ofAscii "ull") after)
      else if b = 116 then do return (.bool true, ← word (Bytes.ofAscii "rue") after)
      else if b = 102 then do return (.bool false, ← word (Bytes.ofAscii "alse") after)
      else if b = 45 then do
        let (x, c) ← number true after
        return (.number x, c)
      else if isDigit b then do
        let (x, c) ← number false c
        return (.number x, c)
      else if b = 34 then do
        let (s, c) ← stringBody n after
        return (.string s, c)
      else if b = 91 ∨ b = 123 then
        match depth with
        | 0 => .error (c.faultAhead .tooDeep)
        | depth + 1 =>
          if b = 91 then elements n depth true after []
          else members n depth true after []
      else .error (c.faultAhead .expectedValue)

/-- Reads the elements of an array up to its end; `seen` holds those read, last first. -/
def elements : Nat → (depth : Nat) → (first : Bool) → Cursor → (seen : List Value) →
    Except Fault (Value × Cursor)
  | 0, _, _, c, _ => .error (c.fault .tooDeep)
  | n + 1, depth, first, c, seen => do
    match ← nextElement first c with
    | .closed c => return (.array seen.reverse, c)
    | .opened c =>
      let (v, c) ← value n depth c
      elements n depth false c (v :: seen)

/-- Reads the members of an object up to its end; `seen` holds those read. -/
def members : Nat → (depth : Nat) → (first : Bool) → Cursor → (seen : List (String × Value)) →
    Except Fault (Value × Cursor)
  | 0, _, _, c, _ => .error (c.fault .tooDeep)
  | n + 1, depth, first, c, seen => do
    match ← nextMember first c with
    | .closed c => return (.object seen, c)
    | .opened c =>
      let (key, c) ← stringBody n c
      let c ← colon c
      let (v, c) ← value n depth c
      members n depth false c (Members.insert key v seen)

end

def parse (bs : Bytes) : Except Fault Value :=
  readAll (fun n c => value n maxDepth c) bs

end RowRelay.Json
