/-!
# Folding lines

Within a scalar over several lines the end of a line counts as a space, each empty line as the end
of a line, and gaps around the end of a line do not count.
-/

set_option autoImplicit false

namespace RowRelay.Yaml

/-- A text under way: what is read, last first, then gaps or ends of lines whose meaning hangs on
what follows. -/
structure Fold where
  read : List Char := []
  gaps : List Char := []
  breaks : Nat := 0
  /-- Whether the line was ended by an escape, so that nothing stands for its end. -/
  joined : Bool := false

namespace Fold

/-- Takes a gap, which counts only within a line. -/
def gap (f : Fold) (c : Char) : Fold :=
  if f.breaks = 0 && !f.joined then { f with gaps := c :: f.gaps } else f

/-- Takes the end of a line. -/
def newline (f : Fold) : Fold :=
  { f with gaps := [], breaks := f.breaks + 1 }

/-- Takes the end of a line with a comment, which is not an empty one. -/
def endComment (f : Fold) : Fold :=
  { f with gaps := [], breaks := max f.breaks 1 }

/-- Settles what gaps and ends of lines stand for. -/
def settle (f : Fold) : Fold :=
  let between :=
    if f.joined then List.replicate f.breaks '\n'
    else match f.breaks with
      | 0 => f.gaps
      | 1 => [' ']
      | n + 1 => List.replicate n '\n'
  { read := between ++ f.read }

/-- Takes a character that counts as it is. -/
def push (f : Fold) (c : Char) : Fold :=
  let f := f.settle
  { f with read := c :: f.read }

/-- Ends a line by an escape. -/
def join (f : Fold) : Fold :=
  { f.settle with joined := true }

def text (f : Fold) : List Char :=
  f.read.reverse

end Fold

end RowRelay.Yaml
