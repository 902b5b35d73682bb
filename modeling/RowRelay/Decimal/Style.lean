import RowRelay.Decimal.Shortest

/-!
# Writing doubles

A style says between which exponents a decimal is written out in full and whether a whole
number keeps a fraction digit. Outside these exponents the first digit stands before the point and
an exponent with a sign follows.
-/

set_option autoImplicit false

namespace RowRelay.Decimal

/-- How a double is written. -/
structure Style where
  /-- The exponents of the first digit for which the digits are written out in full; all of them
  when there are no bounds. -/
  plain : Option (Int × Int)
  /-- What follows a whole number written in full. -/
  wholeSuffix : String

/-- The digits with the point in its place, zeros filling the gap on either side. -/
def positional (suffix : String) (d : Decimal) : List Char :=
  let ds := Nat.toDigits 10 d.digits
  if 0 ≤ d.exponent then ds ++ List.replicate d.exponent.toNat '0' ++ suffix.toList
  else
    let places := (-d.exponent).toNat
    if ds.length ≤ places then
      ['0', '.'] ++ List.replicate (places - ds.length) '0' ++ ds
    else ds.take (ds.length - places) ++ ['.'] ++ ds.drop (ds.length - places)

/-- The first digit, a point before the others, and the exponent with its sign. -/
def scientific (d : Decimal) (leading : Int) : List Char :=
  let sign := if leading < 0 then '-' else '+'
  let exponent := 'e' :: sign :: Nat.toDigits 10 leading.natAbs
  match Nat.toDigits 10 d.digits with
  | [] => []
  | [a] => a :: exponent
  | a :: b :: rest => a :: '.' :: b :: rest ++ exponent

/-- The text of a finite number without its sign. -/
def Style.digits (style : Style) (m : Nat) (q : Int) : List Char :=
  let d := shortest m q
  let leading := d.exponent + digitCount d.digits - 1
  match style.plain with
  | none => positional style.wholeSuffix d
  | some (least, greatest) =>
    if least ≤ leading ∧ leading ≤ greatest then positional style.wholeSuffix d
    else scientific d leading

/-- The text of a double. -/
def Style.write (style : Style) (x : Float) : List Char :=
  match Binary64.ofFloat x with
  | .notANumber => "NaN".toList
  | .infinite negative => if negative then "-inf".toList else "inf".toList
  | .finite negative m q => (if negative then ['-'] else []) ++ style.digits m q

/-- Every digit written out, a whole number without a point: how a setting or a message shows a
number. -/
def inFull : Style := ⟨none, ""⟩

end RowRelay.Decimal
