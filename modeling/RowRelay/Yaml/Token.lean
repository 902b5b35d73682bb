/-!
# Tokens of a document

What a text in YAML consists of once its layout is understood: marks that open and close
collections, also where only the indentation says so, keys and values, and the scalars themselves.
-/

set_option autoImplicit false

namespace RowRelay.Yaml

inductive Token where
  /-- A directive that names the version. -/
  | version
  /-- A directive that says what a handle stands for. -/
  | handle (name stem : List Char)
  | documentStart
  | documentEnd
  | blockSequence
  | blockMapping
  | blockEnd
  | blockEntry
  | flowSequence
  | flowSequenceEnd
  | flowMapping
  | flowMappingEnd
  | flowEntry
  | key
  | value
  | alias (name : List Char)
  | anchor (name : List Char) (column : Nat)
  | tag (handle suffix : List Char) (column : Nat)
  /-- A scalar, which is `plain` if it stands in no quotes and in no block of its own. -/
  | scalar (plain : Bool) (text : List Char)
  deriving DecidableEq, Repr

/-- Whether a token is an anchor or a tag at the beginning of a line. -/
def Token.isOutermostMark : Token → Bool
  | .anchor _ column => column == 0
  | .tag _ _ column => column == 0
  | _ => false

end RowRelay.Yaml
