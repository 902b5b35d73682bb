import RowRelay.Json.Skip
import RowRelay.Text.Utf8

/-!
# The grammar of JSON texts

What texts spell, said without a reader. A string has many spellings: `StringText s bs` allows every
character to stand for itself, for a short escape or for its code, in one or two parts. A number
may have any size (`NumberText`). A value is nested to any depth: `Spells .value bs` says that the
bytes are some value, and `Spells (.rest bracket) bs` that they are what may follow a value inside a
bracket, up to the closing one.
-/

set_option autoImplicit false

namespace RowRelay.Json

open Utf8 (encodeChar)

/-! ## Blanks -/

def IsBlank (b : UInt8) : Prop :=
  b = 32 ∨ b = 10 ∨ b = 9 ∨ b = 13

instance (b : UInt8) : Decidable (IsBlank b) :=
  inferInstanceAs (Decidable (b = 32 ∨ b = 10 ∨ b = 9 ∨ b = 13))

def Blanks (ws : Bytes) : Prop :=
  ∀ b ∈ ws, IsBlank b

instance (ws : Bytes) : Decidable (Blanks ws) :=
  List.decidableBAll IsBlank ws

theorem blanks_nil : Blanks [] :=
  List.forall_mem_nil _

/-- What may follow a value: nothing, a blank, a comma or a closing bracket. -/
def Ends (rest : Bytes) : Prop :=
  ∀ b ∈ rest.head?, IsBlank b ∨ b = 44 ∨ b = 93 ∨ b = 125

/-! ## Strings -/

/-- A hexadecimal digit, in either case. -/
def HexDigit (b : UInt8) (n : Nat) : Prop :=
  (Bytes.ofAscii "0123456789abcdef")[n]? = some b ∨
    (Bytes.ofAscii "0123456789ABCDEF")[n]? = some b

/-- Four hexadecimal digits. -/
inductive HexQuad : Nat → Bytes → Prop
  | digits {a b c d : UInt8} {i j k l : Nat} : HexDigit a i → HexDigit b j → HexDigit c k →
      HexDigit d l → HexQuad (((i * 16 + j) * 16 + k) * 16 + l) [a, b, c, d]

/-- The characters that have a short escape, and its letter. -/
def shortEscapes : List (Char × UInt8) :=
  [('"', 34), ('\\', 92), ('/', 47), ('\x08', 98), ('\x0c', 102), ('\n', 110), ('\r', 114),
    ('\t', 116)]

/-- The spellings of a character. -/
inductive CharText : Char → Bytes → Prop
  | plain {c : Char} : 32 ≤ c.toNat → c ≠ '"' → c ≠ '\\' → CharText c (encodeChar c)
  | short {c : Char} {b : UInt8} : (c, b) ∈ shortEscapes → CharText c [92, b]
  | code {c : Char} {ds : Bytes} : HexQuad c.toNat ds → CharText c (92 :: 117 :: ds)
  /-- A character beyond the first plane, as two surrogates. -/
  | pair {c : Char} {high low : Nat} {ds es : Bytes} : HexQuad high ds → HexQuad low es →
      0xD800 ≤ high → high < 0xDC00 → 0xDC00 ≤ low → low < 0xE000 →
      c.toNat = 0x10000 + (high - 0xD800) * 0x400 + (low - 0xDC00) →
      CharText c (92 :: 117 :: (ds ++ 92 :: 117 :: es))

inductive CharsText : List Char → Bytes → Prop
  | nil : CharsText [] []
  | cons {c : Char} {cs : List Char} {bs body : Bytes} :
      CharText c bs → CharsText cs body → CharsText (c :: cs) (bs ++ body)

/-- The spellings of a string. -/
def StringText (s : String) (bs : Bytes) : Prop :=
  ∃ body, CharsText s.toList body ∧ bs = 34 :: (body ++ [34])

/-- What a string may be made of where nobody asks which characters it spells. -/
inductive Letters : Bytes → Prop
  | nil : Letters []
  | plain {b : UInt8} {bs : Bytes} : 32 ≤ b → b ≠ 34 → b ≠ 92 → Letters bs → Letters (b :: bs)
  | short {c : Char} {b : UInt8} {bs : Bytes} :
      (c, b) ∈ shortEscapes → Letters bs → Letters (92 :: b :: bs)
  | code {n : Nat} {ds bs : Bytes} :
      HexQuad n ds → Letters bs → Letters (92 :: 117 :: (ds ++ bs))

/-- The bytes are some string. -/
def AnyString (bs : Bytes) : Prop :=
  ∃ body, Letters body ∧ bs = 34 :: (body ++ [34])

/-! ## Numbers -/

def AllDigits (ds : Bytes) : Prop :=
  ∀ d ∈ ds, 48 ≤ d ∧ d ≤ 57

instance (ds : Bytes) : Decidable (AllDigits ds) :=
  List.decidableBAll (fun d => 48 ≤ d ∧ d ≤ 57) ds

inductive WholeText : Bytes → Prop
  | zero : WholeText [48]
  | digits {d : UInt8} {ds : Bytes} : 49 ≤ d → d ≤ 57 → AllDigits ds → WholeText (d :: ds)

inductive FractionText : Bytes → Prop
  | none : FractionText []
  | digits {d : UInt8} {ds : Bytes} : AllDigits (d :: ds) → FractionText (46 :: d :: ds)

inductive ExponentText : Bytes → Prop
  | none : ExponentText []
  | digits {e d : UInt8} {sign ds : Bytes} : e = 101 ∨ e = 69 →
      sign = [] ∨ sign = [43] ∨ sign = [45] → AllDigits (d :: ds) →
      ExponentText (e :: (sign ++ d :: ds))

/-- The bytes are some number. -/
def NumberText (bs : Bytes) : Prop :=
  ∃ sign whole fraction exponent, (sign = [] ∨ sign = [45]) ∧ WholeText whole ∧
    FractionText fraction ∧ ExponentText exponent ∧ bs = sign ++ (whole ++ (fraction ++ exponent))

/-! ## Values -/

/-- The byte that opens a bracket. -/
def Bracket.opening : Bracket → UInt8
  | .array => 91
  | .object => 123

/-- What stands before a value inside a bracket: blanks, and in an object a key. -/
inductive KeyText : Bracket → Bytes → Prop
  | array {ws : Bytes} : Blanks ws → KeyText .array ws
  | object {ws ws' ws'' key : Bytes} : Blanks ws → AnyString key → Blanks ws' → Blanks ws'' →
      KeyText .object (ws ++ (key ++ (ws' ++ 58 :: ws'')))

/-- What a text may be. -/
inductive Part where
  | value
  /-- What follows a value inside a bracket. -/
  | rest (bracket : Bracket)

inductive Spells : Part → Bytes → Prop
  | null : Spells .value (Bytes.ofAscii "null")
  | true : Spells .value (Bytes.ofAscii "true")
  | false : Spells .value (Bytes.ofAscii "false")
  | number {bs : Bytes} : NumberText bs → Spells .value bs
  | string {bs : Bytes} : AnyString bs → Spells .value bs
  | empty {ws : Bytes} (bracket : Bracket) : Blanks ws →
      Spells .value (bracket.opening :: (ws ++ [bracket.close]))
  | filled {bracket : Bracket} {key bs rest : Bytes} : KeyText bracket key →
      Spells .value bs → Spells (.rest bracket) rest →
      Spells .value (bracket.opening :: (key ++ (bs ++ rest)))
  | close {ws : Bytes} (bracket : Bracket) : Blanks ws →
      Spells (.rest bracket) (ws ++ [bracket.close])
  | next {bracket : Bracket} {ws key bs rest : Bytes} : Blanks ws → KeyText bracket key →
      Spells .value bs → Spells (.rest bracket) rest →
      Spells (.rest bracket) (ws ++ 44 :: (key ++ (bs ++ rest)))

/-- The bytes are some value. -/
def ValueText (bs : Bytes) : Prop :=
  Spells .value bs

end RowRelay.Json
