import RowRelay.Proofs.Json.Grammar

/-!
# The texts of typed values

The texts that render a value of a given type. A list and a map are rendered item by item, with
blanks wherever the grammar allows them, the entries of a map in any order. A record is rendered by
rules, one for each field: `RecordText` lets the fields come in any order, leaves out those that may
be, and puts members of other names and with any value between them.
-/

set_option autoImplicit false

namespace RowRelay.Json

variable {ι α : Type}

/-! ## Items in a bracket -/

/-- What stands before an item: blanks, and a comma unless the item is the first one. -/
def LeadText : (first : Bool) → Bytes → Prop
  | true, bs => Blanks bs
  | false, bs => ∃ ws ws', Blanks ws ∧ Blanks ws' ∧ bs = ws ++ 44 :: ws'

/-- Items with commas between them, up to the bracket that closes behind them. -/
inductive ItemsText (text : ι → Bytes → Prop) : (first : Bool) → List ι → Bytes → Prop
  | nil {first : Bool} {ws : Bytes} : Blanks ws → ItemsText text first [] ws
  | cons {first : Bool} {i : ι} {is : List ι} {lead bs rest : Bytes} : LeadText first lead →
      text i bs → ItemsText text false is rest →
      ItemsText text first (i :: is) (lead ++ (bs ++ rest))

def BracketText (bracket : Bracket) (text : ι → Bytes → Prop) (is : List ι) (bs : Bytes) : Prop :=
  ∃ body, ItemsText text true is body ∧ bs = bracket.opening :: (body ++ [bracket.close])

/-! ## Values -/

def ListText (text : α → Bytes → Prop) (xs : List α) (bs : Bytes) : Prop :=
  BracketText .array text xs bs

/-- Nothing is rendered as `null`. -/
def OptionText (text : α → Bytes → Prop) : Option α → Bytes → Prop
  | none, bs => bs = Bytes.ofAscii "null"
  | some x, bs => text x bs

/-- A key, a colon and a value. -/
def MemberText (text : α → Bytes → Prop) (m : String × α) (bs : Bytes) : Prop :=
  ∃ key ws ws' value, StringText m.1 key ∧ Blanks ws ∧ Blanks ws' ∧ text m.2 value ∧
    bs = key ++ (ws ++ 58 :: (ws' ++ value))

/-- A map lists its entries by key; they are rendered in any order. -/
def MapText (text : α → Bytes → Prop) (entries : List (String × α)) (bs : Bytes) : Prop :=
  entries.Pairwise (·.1 < ·.1) ∧
    ∃ es, es.Perm entries ∧ BracketText .object (MemberText text) es bs

/-- An object of members whose values have the given texts. -/
def ObjectText (members : List (String × Bytes)) (bs : Bytes) : Prop :=
  BracketText .object (MemberText Eq) members bs

/-! ## Records -/

/-- How a field of a record is rendered: its name, its texts, and when it may be left out. -/
structure Rule (α : Type) where
  name : String
  text : α → Bytes → Prop
  omittable : α → Prop

/-- The members of an object render a record: each field is there once at most, and once unless it
may be left out, with one of its texts; members of other names have any value. -/
structure Renders (rules : List (Rule α)) (x : α) (members : List (String × Bytes)) : Prop where
  once : ∀ rule ∈ rules, (members.map (·.1)).count rule.name ≤ 1
  present : ∀ rule ∈ rules, rule.name ∈ members.map (·.1) ∨ rule.omittable x
  text : ∀ m ∈ members, ∀ rule ∈ rules, rule.name = m.1 → rule.text x m.2
  other : ∀ m ∈ members, m.1 ∉ rules.map (·.name) → ValueText m.2

def RecordText (rules : List (Rule α)) (x : α) (bs : Bytes) : Prop :=
  ∃ members, Renders rules x members ∧ ObjectText members bs

/-- A whole text, with blanks around what it renders. -/
def FileText (text : α → Bytes → Prop) (x : α) (bs : Bytes) : Prop :=
  ∃ ws value ws', Blanks ws ∧ text x value ∧ Blanks ws' ∧ bs = ws ++ (value ++ ws')

end RowRelay.Json
