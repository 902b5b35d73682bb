import RowRelay.Json.Cursor
import RowRelay.Json.Numeral
import RowRelay.Json.Scan

/-!
# Passing over values

A value that nobody asked for is held to the grammar alone: its numbers may be of any size, its
strings may spell no text, and it may be nested to any depth. The brackets open at a point are
kept in a list, innermost first.
-/

set_option autoImplicit false

namespace RowRelay.Json

/-! ## Scalars -/

/-- Passes over four hexadecimal digits or a one-letter escape. -/
def skipEscape (c : Cursor) : Except Fault Cursor :=
  match c.next? with
  | none => .error (c.fault .unfinishedString)
  | some (b, c) =>
    if (shortEscape? b).isSome then .ok c
    else if b = 117 then (hexQuad c).map (·.2)
    else .error (c.fault .invalidEscape)

/-- Passes over a string behind its opening quote. -/
def skipString : Nat → Cursor → Except Fault Cursor
  | 0, c => .error (c.fault .unfinishedString)
  | n + 1, c =>
    match c.next? with
    | none => .error (c.fault .unfinishedString)
    | some (b, after) =>
      if b = 34 then .ok after
      else if b = 92 then do skipString n (← skipEscape after)
      else if b < 32 then .error (c.fault .controlCharacter)
      else skipString n after

/-- Passes over the digits of an exponent behind its `e`. -/
def skipExponent (c : Cursor) : Except Fault Cursor :=
  let c := match c.rest with
    | b :: _ => if b = 43 ∨ b = 45 then c.advance else c
    | [] => c
  let (ds, after) := digits c
  if ds.isEmpty then .error (c.advance.fault .invalidNumber) else .ok after

/-- Passes over what may follow the whole part of a number. -/
def skipFraction (c : Cursor) : Except Fault Cursor :=
  match c.rest with
  | b :: _ =>
    if b = 46 then
      let (ds, after) := digits c.advance
      if ds.isEmpty then .error (c.advance.faultAhead .invalidNumber)
      else
        match after.rest with
        | e :: _ => if e = 101 ∨ e = 69 then skipExponent after.advance else .ok after
        | [] => .ok after
    else if b = 101 ∨ b = 69 then skipExponent c.advance
    else .ok c
  | [] => .ok c

/-- Passes over a number behind its sign. -/
def skipNumber (c : Cursor) : Except Fault Cursor :=
  match c.next? with
  | none => .error (c.fault .invalidNumber)
  | some (b, after) =>
    if b = 48 then
      match after.rest with
      | d :: _ =>
        if isDigit d then .error (after.faultAhead .invalidNumber) else skipFraction after
      | [] => .ok after
    else if isDigit b then skipFraction (digits c).2
    else .error (after.fault .invalidNumber)

/-! ## Brackets -/

inductive Bracket where
  | array
  | object
  deriving DecidableEq

/-- The byte that closes a bracket. -/
def Bracket.close : Bracket → UInt8
  | .array => 93
  | .object => 125

def Bracket.unfinished : Bracket → Cause
  | .array => .unfinishedList
  | .object => .unfinishedObject

def Bracket.expectedEnd : Bracket → Cause
  | .array => .expectedListEnd
  | .object => .expectedObjectEnd

/-- Passes over the key of a member and its colon; elements have neither. -/
def Bracket.skipKey (n : Nat) (c : Cursor) : Bracket → Except Fault Cursor
  | .array => .ok c
  | .object =>
    let c := c.skipBlanks
    match c.next? with
    | none => .error (c.faultAhead .unfinishedObject)
    | some (b, after) =>
      if b ≠ 34 then .error (c.faultAhead .keyNotString)
      else do
        let c := (← skipString n after).skipBlanks
        match c.next? with
        | none => throw (c.faultAhead .unfinishedObject)
        | some (b, after) => if b = 58 then return after else throw (c.faultAhead .expectedColon)

mutual

/-- Passes over a value inside the given brackets, and over what is left of these. -/
def skip : Nat → List Bracket → Cursor → Except Fault Cursor
  | 0, _, c => .error (c.fault .tooDeep)
  | n + 1, open', c =>
    let c := c.skipBlanks
    match c.next? with
    | none => .error (c.faultAhead .unfinishedValue)
    | some (b, after) =>
      if b = 110 then do skipRest n open' (← word (Bytes.ofAscii "ull") after)
      else if b = 116 then do skipRest n open' (← word (Bytes.ofAscii "rue") after)
      else if b = 102 then do skipRest n open' (← word (Bytes.ofAscii "alse") after)
      else if b = 45 then do skipRest n open' (← skipNumber after)
      else if isDigit b then do skipRest n open' (← skipNumber c)
      else if b = 34 then do skipRest n open' (← skipString n after)
      else if b = 91 then skipOpened n .array open' after
      else if b = 123 then skipOpened n .object open' after
      else .error (c.faultAhead .expectedValue)

/-- Goes on behind an opening bracket. -/
def skipOpened : Nat → Bracket → List Bracket → Cursor → Except Fault Cursor
  | 0, _, _, c => .error (c.fault .tooDeep)
  | n + 1, bracket, open', c =>
    let c := c.skipBlanks
    match c.next? with
    | none => .error (c.faultAhead bracket.unfinished)
    | some (b, after) =>
      if b = bracket.close then skipRest n open' after
      else do skip n (bracket :: open') (← bracket.skipKey n c)

/-- Goes on behind a value. -/
def skipRest : Nat → List Bracket → Cursor → Except Fault Cursor
  | _, [], c => .ok c
  | 0, _ :: _, c => .error (c.fault .tooDeep)
  | n + 1, bracket :: open', c =>
    let c := c.skipBlanks
    match c.next? with
    | none => .error (c.faultAhead bracket.unfinished)
    | some (b, after) =>
      if b = 44 then do skip n (bracket :: open') (← bracket.skipKey n after)
      else if b = bracket.close then skipRest n open' after
      else .error (c.faultAhead bracket.expectedEnd)

end

end RowRelay.Json
