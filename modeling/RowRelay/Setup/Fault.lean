import RowRelay.Json.Fault
import RowRelay.Setup.Tree

/-!
# What is wrong with a setup

The reasons for which a setup is refused, and their wording. A value of the wrong type is named
with its key and the place it comes from.
-/

set_option autoImplicit false

namespace RowRelay.Setup

/-! ## Naming what was found -/

/-- A whole double keeps a zero after the point where a section was expected. -/
def pointedStyle : Decimal.Style := ⟨none, ".0"⟩

/-- A value as a message shows it that expected a value of another type. -/
def Scalar.describe : Scalar → String
  | .nil => "unit value"
  | .flag b => if b then "boolean `true`" else "boolean `false`"
  | .int n =>
    let digits := String.ofList (Json.writeInt n)
    if n ≤ Int64.maxValue.toInt then s!"64-bit integer `{digits}`"
    else s!"64-bit unsigned integer `{digits}`"
  | .float x => "floating point `" ++ String.ofList (Decimal.inFull.write x) ++ "`"
  | .text s => "string " ++ Text.quote s

/-- A value as a message shows it that expected a section. -/
def Scalar.describeInPlace : Scalar → String
  | .int n => "integer `" ++ String.ofList (Json.writeInt n) ++ "`"
  | .float x =>
    let style := match Binary64.ofFloat x with
      | .finite .. => pointedStyle
      | _ => Decimal.inFull
    "floating point `" ++ String.ofList (style.write x) ++ "`"
  | v => v.describe

def Tree.describe : Tree → String
  | .scalar _ v => v.describe
  | .list .. => "sequence"
  | .table .. => "map"

def Tree.describeInPlace : Tree → String
  | .scalar _ v => v.describeInPlace
  | t => t.describe

/-! ## Causes -/

/-- Why a file cannot be read. -/
inductive FileFault where
  | json (cause : Json.Fault)
  /-- The file holds something other than a table. -/
  | root (found : String)
  /-- The file is not written in its format. -/
  | malformed
  /-- The library that reads the format refuses the file, and says why. -/
  | foreign (cause : String)

/-- Why a part of the setup does not have the form it should have. -/
inductive ShapeFault where
  | notA (expected found : String)
  /-- A section given as a list has too few items. -/
  | tooShort (name : String) (length fields : Nat)
  | unknownChoice (name choice : String)
  | notAChoice (name : String)

inductive Fault where
  /-- A setting that has no default is not given. -/
  | unset (key : String)
  | unreadable (file : String) (cause : FileFault)
  | wrongType (found expected : String) (origin : Option String) (key : String)
  | misshapen (cause : ShapeFault) (key : String)
  | emptyBatches
  | crossedBackoff
  | nonPositiveTtl

/-! ## Wording -/

def FileFault.message (file : String) : FileFault → String
  | .json cause => cause.message
  | .root found => s!"invalid type: {found}, expected a map in {file}"
  | .malformed => "the file is malformed"
  | .foreign cause => cause

def ShapeFault.message : ShapeFault → String
  | .notA expected found => s!"invalid type: {found}, expected {expected}"
  | .tooShort name length fields =>
    let elements := if fields = 1 then "element" else "elements"
    s!"invalid length {length}, expected struct {name} with {fields} {elements}"
  | .unknownChoice name choice => s!"enum {name} does not have variant constructor {choice}"
  | .notAChoice name =>
    s!"value of enum {name} should be represented by either string or table with exactly one key"

def Fault.message : Fault → String
  | .unset key => s!"missing configuration field \"{key}\""
  | .unreadable file cause => s!"{cause.message file} in {file}"
  | .wrongType found expected origin key =>
    let place := match origin with
      | some o => s!" in {o}"
      | none => ""
    s!"invalid type: {found}, expected {expected} for key `{key}`{place}"
  | .misshapen cause key => s!"{cause.message} for key `{key}`"
  | .emptyBatches => "relay.batch_size must be at least 1"
  | .crossedBackoff =>
    "relay.empty_backoff_initial_ms must not exceed relay.empty_backoff_max_ms"
  | .nonPositiveTtl => "dead_letter.ttl_secs must be positive"

end RowRelay.Setup
