import RowRelay.App.Session
import RowRelay.Log.Filter
import RowRelay.Relay.Step
import RowRelay.Setup.Load
import RowRelay.Setup.VariableFile

/-!
# The program

The program loads its settings from a setup file and variables, to which a file of variables may
add, opens the store of dead letters if messages can end there, and relays until it is asked to stop
or fails. It prints the lines of its log that the filter shows, and a last word when it stops in
good order.
-/

set_option autoImplicit false

namespace RowRelay.App

open Setup (Folder Readers)

/-- What a run of the program leaves behind. -/
structure Outcome where
  /-- The exit code; there is none when the program never ends. -/
  exit : Option Nat
  /-- The lines printed. -/
  output : List String
  session : Session
  /-- The store of dead letters, if one was opened. -/
  store : Option Store

/-- The name of the file of variables. -/
def variableFile : String := ".env"

/-- The variable with the directives of the log. -/
def filterVariable : String := "RUST_LOG"

/-- The last word of the program. -/
def farewell : String := "Exiting application"

/-- The variables of a run: those given, and those that the file of variables adds, if it can be
used. -/
def environmentOf (folder : Folder) (environment : List (String × String)) :
    Option (List (String × String)) :=
  match folder.lookup variableFile with
  | some file => Setup.VariableFile.extend environment file
  | none => some environment

/-- The exit code where the file of variables cannot be used. -/
def crashCode : Nat := 101

/-- Opens the store of dead letters, when the policy has a use for it. -/
def openStore (folder : Folder) (settings : Settings) : Except StoreError (Option Store) :=
  match settings.relay.failurePolicy with
  | .abort => .ok none
  | .deadLetter =>
    let site := Store.siteOf (folder.map (·.1)) settings.deadLetter.path
    some <$> Store.openAt site ⟨settings.deadLetter.ttlSecs, settings.deadLetter.maxEntries⟩

/-- The line about a store that was opened. -/
def storeLine (settings : Settings) (store : Store) : Log.Line :=
  ⟨.info, s!"dead letters go to {settings.deadLetter.path} ({store.size} stored)"⟩

def failureLine (message : String) : Log.Line :=
  ⟨.error, s!"Relay failed: {message}"⟩

/-- The services that settings describe. -/
def servicesOf (settings : Settings) : Relay.Services Session :=
  let token := settings.auth.accessToken
  Session.host.services ⟨settings.endpoints.pubsubUrl, token⟩
    ⟨⟨settings.endpoints.bigqueryUrl, token⟩,
      BigQuery.Client.retryPolicy (.ofMillis settings.relay.insertRetryBaseMs.toNat)⟩

/-- The lines logged and printed last, and the exit code, of a run that ended in some way. -/
def closing (session : Session) : Option Relay.RunEnd → List Log.Line × List String × Option Nat
  | some (.stopped stats) =>
    ([⟨.info, s!"relayed {stats.received} messages in {stats.batches} batches " ++
      s!"({stats.failed} failed, {stats.acknowledged} acknowledged)"⟩], [farewell], some 0)
  | some (.failed e) => ([failureLine e.message], [], some 1)
  | some .unanswered | none =>
    if session.holding.any (·.insists) then
      ([⟨.warn, "Second shutdown signal received, exiting without waiting."⟩], [farewell], some 0)
    else ([], [], none)

/-- Relays as settings say. At most as many steps are taken as there are responses, and two. -/
def relay (settings : Settings) (print : Log.Line → Option String) (store : Option Store)
    (session : Session) : Outcome :=
  let relay := Relay.ofTarget settings.target settings.relay
  let opening := (store.map (storeLine settings)).toList
  let (result, s) := relay.run (servicesOf settings) (session.server.responses.length + 2)
    (.start settings.relay store session)
  let (lines, words, exit) := closing s.world result
  ⟨exit, (opening ++ Relay.logOf s.journal ++ lines).filterMap print ++ words, s.world, s.store⟩

/-- A line as it is printed, if the filter shows it. -/
def shown (filter : Log.Filter) (line : Log.Line) : Option String :=
  if filter.shows line.level then some line.render else none

/-- Runs the program in a folder with these variables alone. -/
def runWith (readers : Readers) (folder : Folder) (environment : List (String × String))
    (session : Session) : Outcome :=
  let directives := environment.lookup filterVariable
  match Setup.load readers folder environment Setup.defaultPath with
  | .error fault =>
    let line : Log.Line := ⟨.error, s!"Failed to load configuration: {fault.message}"⟩
    ⟨some 1, (shown (.choose "info" directives) line).toList, session, none⟩
  | .ok settings =>
    let filter := Log.Filter.choose settings.logging.level directives
    match openStore folder settings with
    | .error cause =>
      ⟨some 1, (shown filter (failureLine cause.message)).toList, session, none⟩
    | .ok store => relay settings (shown filter) store session

/-- Runs the program in a folder with the variables given, and those of the file of variables. -/
def run (readers : Readers) (folder : Folder) (environment : List (String × String))
    (session : Session) : Outcome :=
  match environmentOf folder environment with
  | some environment => runWith readers folder environment session
  | none => ⟨some crashCode, [], session, none⟩

end RowRelay.App
