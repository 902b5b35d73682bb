import RowRelay.Log

/-!
# What calls bring

A call changes the world it is made in, may log lines, and brings an answer. A call that may be
given up when the relay is asked to stop is either answered or abandoned.
-/

set_option autoImplicit false

namespace RowRelay

/-- How a call ended that may be given up. -/
inductive Awaited (α : Type) where
  | answered (answer : α)
  | abandoned

def Awaited.map {α β : Type} (f : α → β) : Awaited α → Awaited β
  | .answered a => .answered (f a)
  | .abandoned => .abandoned

/-- What a call brought: its answer, the lines it logged, and the world after it. -/
structure Reply (σ α : Type) where
  answer : α
  lines : List Log.Line
  world : σ

end RowRelay
