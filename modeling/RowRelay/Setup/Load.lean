import RowRelay.Setup.File
import RowRelay.Setup.Path
import RowRelay.Setup.Sections
import RowRelay.Setup.Variables

/-!
# Loading settings

Settings come from a setup file, if there is one, from variables, which override the file, and
from defaults for what neither gives.
-/

set_option autoImplicit false

namespace RowRelay.Setup

/-- The name of the setup file when none is given. -/
def defaultPath : String := "setup"

/-- What the setup file and the variables say together. -/
def gather (readers : Readers) (folder : Folder) (environment : List (String × String))
    (path : String) : Except Fault Tree := do
  let fromFile ← match findFile? folder path with
    | some file => file.values readers
    | none => .ok []
  return (Tree.empty.putAll fromFile).putAll (valuesOf environment)

def load (readers : Readers) (folder : Folder) (environment : List (String × String))
    (path : String) : Except Fault Settings := do
  (← Draft.ofTree (← gather readers folder environment path)).complete

end RowRelay.Setup
