/-!
# Classes given by their bounds

A class of characters as the code points at which it begins and ends, in turn.
-/

set_option autoImplicit false

namespace RowRelay.Text

/-- Whether a code point lies in a class: as many bounds lie at or below it as there are beginnings
and endings before it, an odd number inside the class. -/
def liesWithin (bounds : List Nat) (n : Nat) : Bool :=
  (bounds.takeWhile (· ≤ n)).length % 2 == 1

end RowRelay.Text
