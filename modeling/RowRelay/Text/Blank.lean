/-!
# Blank characters

The characters with the property White_Space, and the trimming of a text at both ends. A text
of blanks alone counts as not given where a setting is required.
-/

set_option autoImplicit false

namespace RowRelay.Text

/-- The characters with the property White_Space. -/
def isBlank (c : Char) : Bool :=
  let n := c.toNat
  (9 ≤ n && n ≤ 13) || n == 0x20 || n == 0x85 || n == 0xA0 || n == 0x1680 ||
    (0x2000 ≤ n && n ≤ 0x200A) || n == 0x2028 || n == 0x2029 || n == 0x202F || n == 0x205F ||
    n == 0x3000

/-- The characters without the blanks at either end. -/
def trim (cs : List Char) : List Char :=
  ((cs.dropWhile isBlank).reverse.dropWhile isBlank).reverse

/-- Whether a text holds blanks alone. -/
def isBlankText (s : String) : Bool :=
  s.toList.all isBlank

end RowRelay.Text
