import RowRelay.Http.Escape

/-!
# Paths

A path is a row of steps with slashes between them. The step `.` leads nowhere and `..` leads back,
but not beyond the start nor out of a drive, which is a letter with a colon.
-/

set_option autoImplicit false

namespace RowRelay.Http

/-- A step of a path in which escaped points are points. -/
def readPoints : List Char → List Char
  | '%' :: '2' :: c :: rest =>
    if c = 'e' ∨ c = 'E' then '.' :: readPoints rest else '%' :: '2' :: c :: readPoints rest
  | c :: rest => c :: readPoints rest
  | [] => []

/-- Whether a step is a drive; the colon may also be a bar. -/
def isDrive : List Char → Bool
  | [c, d] => c.isAlpha && (d == ':' || d == '|')
  | _ => false

/-- Leads back by one step. Where a backslash is no slash, what is behind one still belongs to the
drive before it. -/
def stepBack : List (List Char) → List (List Char)
  | [] => []
  | step :: taken => if isDrive (step.takeWhile (· != '\\')) then step :: taken else taken

/-- A step as it is kept. The drive that a path of files begins with has a colon. -/
def keptStep (isFile : Bool) (taken : List (List Char)) (step : List Char) : List Char :=
  if isFile && taken.isEmpty && isDrive step then step.take 1 ++ [':'] else escape pathMarks step

/-- Takes a step of a path, the steps before it last first. The last step leaves an empty step
behind when it leads nowhere or back. -/
def takeStep (isFile isLast : Bool) (taken : List (List Char)) (step : List Char) :
    List (List Char) :=
  let trail : List (List Char) := if isLast then [[]] else []
  if readPoints step = ['.', '.'] then trail ++ stepBack taken
  else if readPoints step = ['.'] then trail ++ taken
  else keptStep isFile taken step :: taken

/-- Takes the steps of a path in order. -/
def takeSteps (isFile : Bool) : (taken : List (List Char)) → List (List Char) → List (List Char)
  | taken, [] => taken.reverse
  | taken, [step] => (takeStep isFile true taken step).reverse
  | taken, step :: rest => takeSteps isFile (takeStep isFile false taken step) rest

/-- The path behind a first slash. -/
def normalPath (isFile : Bool) (cs : List Char) : List Char :=
  '/' :: List.intercalate ['/'] (takeSteps isFile [] (cs.splitOn '/'))

end RowRelay.Http
