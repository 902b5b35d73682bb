import RowRelay.Decimal.Read
import RowRelay.Setup.Tree
import RowRelay.Text.LowerCase

/-!
# Settings from the environment

A variable whose name begins with `RELAY_` gives a setting: two underscores divide a section from
what is inside it, and case does not count. Its text is taken as a yes or no, as a whole number of
64 bits, as a double, or else as it stands.
-/

set_option autoImplicit false

namespace RowRelay.Setup

/-- The origin of what variables give. -/
def variableOrigin : String := "the environment"

/-- What the name of a variable begins with, in lower case. -/
def variablePrefix : List Char := "relay_".toList

/-- Two underscores become a point. -/
def divide : List Char → List Char
  | '_' :: '_' :: rest => '.' :: divide rest
  | c :: rest => c :: divide rest
  | [] => []

/-- The setting that a variable names. -/
def settingOf? (name : String) : Option String :=
  let cs := (Text.lowerCase name).toList
  if variablePrefix.isPrefixOf cs then
    some (String.ofList (divide (cs.drop variablePrefix.length)))
  else none

/-- What the text of a variable stands for. -/
def Scalar.ofVariable (s : String) : Scalar :=
  match Text.lowerCase s with
  | "true" => .flag true
  | "false" => .flag false
  | _ =>
    match Decimal.signed64? 10 s.toList with
    | some n => .int n
    | none =>
      match Decimal.double? s.toList with
      | some x => .float x
      | none => .text s

/-- The settings that variables give, in their order. -/
def valuesOf (environment : List (String × String)) : List (String × Tree) :=
  environment.filterMap fun (name, s) =>
    (settingOf? name).map fun setting => (setting, .scalar (some variableOrigin) (.ofVariable s))

end RowRelay.Setup
