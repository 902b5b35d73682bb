import RowRelay.App.Run
import Std.Internal.UV.System

/-!
# The command

Runs the program in the working directory with the variables of the environment. The command opens
no connections: its network is a server at the authority given as the argument, and the lines of
standard input are the responses of that server, each a status, a blank and a body. After the last
response the program is asked to stop, and asked again if a request is still open. Of the formats
of setup files it reads JSON and YAML.
-/

set_option autoImplicit false

namespace RowRelay.App

/-- The files that the program may read. -/
def fileNames : List String :=
  variableFile :: Setup.defaultPath ::
    Setup.extensions.map fun (extension, _) => s!"{Setup.defaultPath}.{extension}"

/-- The files of the working directory that can be read. -/
def readFolder : IO Setup.Folder :=
  fileNames.filterMapM fun name : String => do
    let .ok content ← (IO.FS.readBinFile name).toBaseIO | return none
    return some (name, content.toList)

/-- The response that a line spells. -/
def responseOfLine (line : String) : Http.Response :=
  let (status, body) := line.toList.span (· != ' ')
  ⟨(Decimal.natural? 10 status).getD 200, Utf8.ofString (String.ofList (body.drop 1)), true⟩

/-- The lines of a text that are not empty. -/
def linesOf (text : String) : List String :=
  (text.splitOn "\n").filter (!·.isEmpty)

/-- A session with a server, whose user insists on the end. -/
def sessionOf (authority : String) (responses : List Http.Response) : Session :=
  { server := ⟨authority, responses.map some, []⟩, holding := some ⟨none, true⟩ }

/-- Runs the program on what is given to the command, and ends with its exit code. -/
def command (args : List String) : IO UInt32 := do
  let folder ← readFolder
  let environment ← Std.Internal.UV.System.osEnviron
  let responses := (linesOf (← (← IO.getStdin).readToEnd)).map responseOfLine
  let session := sessionOf (args.headD "127.0.0.1:8085") responses
  let outcome := run Setup.refusing folder environment.toList session
  outcome.output.forM IO.println
  return (outcome.exit.getD 0).toUInt32

end RowRelay.App

def main (args : List String) : IO UInt32 :=
  RowRelay.App.command args
