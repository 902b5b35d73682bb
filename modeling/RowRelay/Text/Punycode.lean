/-!
# Punycode

Text written in ASCII: the ASCII characters first, then the others as numbers, each telling how far
on, in the order of code points and places, the next character is put in. The digits of a number
count more the further right they stand; a digit below its threshold is the last.
-/

set_option autoImplicit false

namespace RowRelay.Punycode

/-! ## Digits -/

/-- The digits are the letters and then the figures. -/
def digit (n : Nat) : Char :=
  if n < 26 then Char.ofNat (0x61 + n) else Char.ofNat (0x30 + n - 26)

def digit? (c : Char) : Option Nat :=
  let n := c.toNat
  if 0x61 ≤ n ∧ n ≤ 0x7A then some (n - 0x61)
  else if 0x41 ≤ n ∧ n ≤ 0x5A then some (n - 0x41)
  else if 0x30 ≤ n ∧ n ≤ 0x39 then some (n - 0x30 + 26)
  else none

/-- The threshold of the digit at `place`, where places are counted in steps of 36. -/
def threshold (place bias : Nat) : Nat :=
  if place ≤ bias then 1 else if bias + 26 ≤ place then 26 else place - bias

theorem threshold_pos (place bias : Nat) : 1 ≤ threshold place bias := by
  unfold threshold
  split
  · omega
  · split <;> omega

/-- Divides until the number is at most 455, and counts the divisions in steps of 36. -/
def shrink (delta places : Nat) : Nat × Nat :=
  if 455 < delta then shrink (delta / 35) (places + 36) else (delta, places)
termination_by delta
decreasing_by exact Nat.div_lt_self (by omega) (by omega)

/-- The bias after a number: the larger the number, the more digits the next is expected to have. -/
def adapt (delta count : Nat) (isFirst : Bool) : Nat :=
  let delta := if isFirst then delta / 700 else delta / 2
  let (delta, places) := shrink (delta + delta / count) 0
  places + 36 * delta / (delta + 38)

/-! ## Writing -/

def encodeNumber (bias place n : Nat) : List Char :=
  let t := threshold place bias
  if n < t then [digit n]
  else digit (t + (n - t) % (36 - t)) :: encodeNumber bias (place + 36) ((n - t) / (36 - t))
termination_by n
decreasing_by
  have h := threshold_pos place bias
  exact Nat.lt_of_le_of_lt (Nat.div_le_self _ _) (by omega)

/-- How far writing has come. -/
structure Writing where
  /-- What is written, last number first. -/
  written : List (List Char)
  /-- How many places were passed since the last number. -/
  delta : Nat
  bias : Nat
  /-- How many characters are written. -/
  count : Nat

/-- Passes a character in the round of a code point. -/
def Writing.pass (ascii point : Nat) (w : Writing) (c : Char) : Writing :=
  if c.toNat < point then { w with delta := w.delta + 1 }
  else if c.toNat = point then
    { written := encodeNumber w.bias 36 w.delta :: w.written
      delta := 0
      bias := adapt w.delta (w.count + 1) (w.count == ascii)
      count := w.count + 1 }
  else w

/-- Makes a round through the text for each code point left, in ascending order. `next` is the one
behind the last. -/
def Writing.rounds (cs : List Char) (ascii : Nat) : (points : List Nat) → (next : Nat) →
    Writing → Writing
  | [], _, w => w
  | point :: points, next, w =>
    let w := { w with delta := w.delta + (point - next) * (w.count + 1) }
    let w := cs.foldl (Writing.pass ascii point) w
    rounds cs ascii points (point + 1) { w with delta := w.delta + 1 }

/-- Puts a number among others in ascending order, unless it is there. -/
def insert (n : Nat) : List Nat → List Nat
  | [] => [n]
  | m :: ms => if n < m then n :: m :: ms else if n = m then m :: ms else m :: insert n ms

def encode (cs : List Char) : List Char :=
  let ascii := cs.filter fun c => c.toNat < 0x80
  let points := (cs.filter fun c => 0x80 ≤ c.toNat).foldr (fun c => insert c.toNat) []
  let w := Writing.rounds cs ascii.length points 0x80 ⟨[], 0, 72, ascii.length⟩
  ascii ++ (if ascii.isEmpty then [] else ['-']) ++ w.written.reverse.flatten

/-! ## Reading -/

/-- How far reading has come. -/
structure Reading where
  seen : List Char
  /-- The code point at which the next character is looked for first. -/
  point : Nat
  bias : Nat
  /-- The place in the text from which the number under way counts. -/
  origin : Nat
  /-- What the number under way comes to, counted from the start of the text. -/
  sum : Nat
  /-- What the next digit counts. -/
  weight : Nat
  /-- The place of the next digit in its number. -/
  place : Nat

/-- Where no number is under way. -/
def Reading.between (seen : List Char) (point bias origin : Nat) : Reading :=
  ⟨seen, point, bias, origin, origin, 1, 36⟩

/-- Puts in the character that a finished number tells. -/
def Reading.put? (r : Reading) : Option Reading :=
  let count := r.seen.length + 1
  let point := r.point + r.sum / count
  let place := r.sum % count
  if point < 0xD800 ∨ 0xDFFF < point ∧ point < 0x110000 then
    some <| between (r.seen.insertIdx place (Char.ofNat point)) point
      (adapt (r.sum - r.origin) count (r.origin == 0)) (place + 1)
  else none

/-- Reads a digit. -/
def Reading.push? (r : Reading) (c : Char) : Option Reading := do
  let d ← digit? c
  let t := threshold r.place r.bias
  let read := { r with sum := r.sum + d * r.weight }
  if d < t then read.put?
  else some { read with weight := r.weight * (36 - t), place := r.place + 36 }

/-- The text that ASCII characters spell. Those before the last hyphen stand for themselves. -/
def decode? (cs : List Char) : Option (List Char) := do
  let (ascii, numbers) := match cs.reverse.span (· != '-') with
    | (numbers, _ :: ascii) => (ascii.reverse, numbers.reverse)
    | (_, []) => ([], cs)
  let r ← numbers.foldlM Reading.push? (Reading.between ascii 0x80 72 0)
  if r.place = 36 then some r.seen else none

end RowRelay.Punycode
