/-!
# Durations

A span of time in nanoseconds, and the form in which a message shows one: in the largest unit of
which there is at least one, with as many decimals as it takes.
-/

set_option autoImplicit false

namespace RowRelay

structure Duration where
  nanos : Nat
  deriving DecidableEq, Repr

namespace Duration

def ofMillis (n : Nat) : Duration := ⟨n * 1000000⟩

def ofSecs (n : Nat) : Duration := ⟨n * 1000000000⟩

/-- A number of `10 ^ places`-ths, without zeros at the end. -/
def decimals (n places : Nat) : String :=
  let unit := Nat.pow 10 places
  let whole := toString (n / unit)
  let digits := Nat.toDigits 10 (n % unit)
  let fraction := List.replicate (places - digits.length) '0' ++ digits
  let kept := (fraction.reverse.dropWhile (· = '0')).reverse
  if n % unit = 0 then whole else whole ++ "." ++ String.ofList kept

def describe (d : Duration) : String :=
  if 1000000000 ≤ d.nanos then decimals d.nanos 9 ++ "s"
  else if 1000000 ≤ d.nanos then decimals d.nanos 6 ++ "ms"
  else if 1000 ≤ d.nanos then decimals d.nanos 3 ++ "µs"
  else decimals d.nanos 0 ++ "ns"

end Duration

end RowRelay
