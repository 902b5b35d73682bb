import RowRelay.Decimal.Read
import RowRelay.Log
import RowRelay.Log.Pattern
import RowRelay.Text.Alphanumeric
import RowRelay.Text.Blank
import RowRelay.Text.LowerCase

/-!
# Which lines the log shows

A filter is a list of directives, written with commas between them. A directive gives the most
verbose level that is shown. It holds for every event, for the events of a target whose name
begins with a given text (`target=level`), for events inside a named span, or for events with
certain fields (`[span{field}]=level`). Of the directives that hold for an event the most specific
one decides, of two equally specific ones the later.
-/

set_option autoImplicit false

namespace RowRelay.Log

/-- The most verbose level that is shown; there is none when nothing is. -/
abbrev Threshold := Option Level

def Threshold.shows (t : Threshold) (level : Level) : Bool :=
  match t with
  | none => false
  | some most => level.verbosity ≤ most.verbosity

/-- The threshold that a word or a number from zero to five stands for, in any case. -/
def threshold? (cs : List Char) : Option Threshold :=
  match Decimal.unsigned64? cs, String.ofList (cs.map Char.toLower) with
  | some 0, _ | none, "off" => some none
  | some 1, _ | none, "error" => some (some .error)
  | some 2, _ | none, "warn" => some (some .warn)
  | some 3, _ | none, "info" => some (some .info)
  | some 4, _ | none, "debug" => some (some .debug)
  | some 5, _ | none, "trace" => some (some .trace)
  | _, _ => none

/-! ## Directives -/

structure Directive where
  target : Option (List Char) := none
  span : Option (List Char) := none
  /-- Names of fields, each perhaps with `=` and a value. -/
  fields : List (List Char) := []
  threshold : Threshold := some .trace

namespace Directive

/-- Where the reading of a directive stands; a number says where the piece at hand began. -/
inductive Place where
  | start
  | word
  | span (began : Nat)
  | field (began : Nat)
  | fieldsEnd
  | spanEnd
  | level (began : Nat)

/-- The characters from one position up to another. -/
def cut (cs : List Char) (first last : Nat) : List Char :=
  (cs.drop first).take (last - first)

/-- Takes the character at position `i`; pieces are cut from `cs`. -/
def read (cs : List Char) : Directive × Place → Char × Nat → Option (Directive × Place)
  | (d, .start), (c, i) =>
    if c = '[' then some (d, .span (i + 1))
    else if Text.isAlphanumeric c || ['-', ':', '_'].contains c then some (d, .word)
    else none
  | (d, .word), (c, i) =>
    if c = '=' then some ({ d with target := some (cut cs 0 i) }, .level (i + 1))
    else if c = '[' then some ({ d with target := some (cut cs 0 i) }, .span (i + 1))
    else some (d, .word)
  | (d, .span began), (c, i) =>
    let name := cut cs began i
    if c = ']' then some ({ d with span := some name }, .spanEnd)
    else if c = '\x7b' then
      some ({ d with span := if name.isEmpty then none else some name }, .field (i + 1))
    else some (d, .span began)
  | (d, .field began), (c, i) =>
    let field := cut cs began i
    if c = '\x7d' then
      if field.isEmpty || !isField field then none
      else some ({ d with fields := d.fields ++ [field] }, .fieldsEnd)
    else some (d, .field began)
  | (d, .fieldsEnd), (c, _) => if c = ']' then some (d, .spanEnd) else none
  | (d, .spanEnd), (c, i) => if c = '=' then some (d, .level (i + 1)) else none
  | (d, .level began), _ => some (d, .level began)

/-- What is read when a directive ends. A bare word is a level if it can be one, else a target of
which everything is shown. -/
def finish (cs : List Char) : Directive × Place → Option Directive
  | (d, .word) =>
    match threshold? cs with
    | some t => some { d with threshold := t }
    | none => some { d with target := some cs }
  | (d, .level began) =>
    let level := cs.drop began
    if level.isEmpty then some d
    else (threshold? level).map fun t => { d with threshold := t }
  | (d, .spanEnd) => some d
  | _ => none

/-- Reads a directive. Blanks around it are passed over, but its pieces are cut from the text as
it stands, so that a blank in front shifts them all. -/
def parse? (cs : List Char) : Option Directive := do
  let s ← (Text.trim cs).zipIdx.foldlM (read cs) ({}, .start)
  finish cs s

/-- Whether a directive can decide about events outside any span. -/
def isUnconditional (d : Directive) : Bool :=
  d.span.isNone && d.fields.all fun f => !f.contains '='

/-- Whether a directive holds for the events of a target that have the one field `message`. -/
def concerns (d : Directive) (target : List Char) : Bool :=
  d.isUnconditional && (d.target.all fun t => t.isPrefixOf target) &&
    d.fields.all (· == "message".toList)

/-- How specific a directive is: first by the length of its target, then by its fields. -/
def isLessSpecific (a b : Directive) : Bool :=
  let length (d : Directive) : Nat := match d.target with
    | none => 0
    | some t => t.length + 1
  length a < length b || (length a == length b && a.fields.length < b.fields.length)

end Directive

/-! ## Filters -/

/-- The directives of a filter, in the order in which they are given. -/
abbrev Filter := List Directive

namespace Filter

/-- The target of all lines of the relay. -/
def target : List Char := "pubsub_relay".toList

/-- Reads directives between commas; nothing between two commas is passed over. -/
def parse? (s : String) : Option Filter :=
  ((s.splitOn ",").map String.toList).filter (!·.isEmpty) |>.mapM Directive.parse?

/-- The most specific directive that concerns the relay. -/
def decisive? (f : Filter) : Option Directive :=
  (f.filter fun d => d.concerns target).foldl (fun best? d =>
    match best? with
    | none => some d
    | some best => if d.isLessSpecific best then some best else some d) none

/-- Whether a line of a level is shown; nothing is when no directive concerns the relay. -/
def shows (f : Filter) (level : Level) : Bool :=
  match f.decisive? with
  | none => false
  | some d => Threshold.shows d.threshold level

/-- The filter for a level that is named by a word; a word that names none stands for `info`. -/
def ofWord (word : String) : Filter :=
  let most : Level := match Text.lowerCase word with
    | "error" => .error
    | "warn" | "warning" => .warn
    | "debug" => .debug
    | "trace" => .trace
    | _ => .info
  [{ threshold := some most }]

/-- The filter of a log: directives given for the run win over the configured word when they can
be read. -/
def choose (word : String) (directives : Option String) : Filter :=
  (directives.bind parse?).getD (ofWord word)

end Filter

end RowRelay.Log
