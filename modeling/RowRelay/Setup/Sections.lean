import RowRelay.Setup.Convert
import RowRelay.Setup.Draft

/-!
# The sections of a setup

Which settings there are, what they are called and how their values are taken. A section is a
table with the settings as its keys, or a list with one item for each setting in their order. Keys
that name no setting are passed over; nil is no value.
-/

set_option autoImplicit false

namespace RowRelay.Setup

/-! ## Reading a section -/

/-- A setting of a section: its key, and how its value goes into what is read. -/
structure Setting (α : Type) where
  key : String
  set : α → Conversion α

/-- A section by the name that messages give it, and its settings in order. -/
structure Section (α : Type) where
  name : String
  settings : List (Setting α)

/-- The key of a setting inside a section; the outermost section has no key of its own. -/
def keyWithin (parent key : String) : String :=
  if parent.isEmpty then key
  else if key.isEmpty || key.startsWith "[" then parent ++ key else parent ++ "." ++ key

/-- Whether a tree gives no value at all. -/
def Tree.isNil : Tree → Bool
  | .scalar _ .nil => true
  | _ => false

/-- Takes the value of a setting, if there is one. -/
def Setting.take {α : Type} (setting : Setting α) (a : α) : Conversion α := fun key t =>
  if t.isNil then .ok a else setting.set a key t

namespace Section

variable {α : Type}

/-- Takes the settings that entries name. -/
def readEntries (sec : Section α) (parent : String) :
    List (String × Tree) → α → Except Fault α
  | [], a => .ok a
  | (key, t) :: rest, a =>
    match sec.settings.find? fun setting => setting.key == key with
    | none => readEntries sec parent rest a
    | some setting => do
      readEntries sec parent rest (← setting.take a (keyWithin parent key) t)

/-- Takes one item for each setting; items beyond the settings are passed over. -/
def readItems (sec : Section α) (parent : String) :
    (index : Nat) → List (Setting α) → List Tree → α → Except Fault α
  | _, [], _, a => .ok a
  | index, _ :: _, [], _ =>
    .error (.misshapen (.tooShort sec.name index sec.settings.length) parent)
  | index, setting :: settings, t :: rest, a => do
    readItems sec parent (index + 1) settings rest (← setting.take a s!"{parent}[{index}]" t)

def read (sec : Section α) (a : α) : Conversion α := fun key t =>
  match t with
  | .table _ es => readEntries sec key es a
  | .list _ ts => readItems sec key 0 sec.settings ts a
  | t => .error (.misshapen (.notA ("struct " ++ sec.name) t.describeInPlace) key)

end Section

/-- A setting whose value is taken by a conversion and put into its place. -/
def setting {α β : Type} (key : String) (convert : Conversion β) (put : α → β → α) :
    Setting α where
  key := key
  set a key t := (convert key t).map (put a)

/-! ## The sections -/

def failurePolicy : Conversion FailurePolicy :=
  choice "FailurePolicy" [("abort", .abort), ("dead_letter", .deadLetter)]

def ackPolicy : Conversion AckPolicy :=
  choice "AckPolicy" [("after_attempt", .afterAttempt), ("after_insert", .afterInsert)]

def relaySection : Section RelayDraft where
  name := "PartialRelaySettings"
  settings := [
    setting "batch_size" unsigned32 fun d x => { d with batchSize := some x },
    setting "return_immediately" flag fun d x => { d with returnImmediately := some x },
    setting "insert_retries" unsigned32 fun d x => { d with insertRetries := some x },
    setting "insert_retry_base_ms" unsigned64 fun d x => { d with insertRetryBaseMs := some x },
    setting "empty_backoff_initial_ms" unsigned64 fun d x =>
      { d with emptyBackoffInitialMs := some x },
    setting "empty_backoff_max_ms" unsigned64 fun d x => { d with emptyBackoffMaxMs := some x },
    setting "failure_policy" failurePolicy fun d x => { d with failurePolicy := some x },
    setting "ack_policy" ackPolicy fun d x => { d with ackPolicy := some x }]

def endpointSection : Section EndpointDraft where
  name := "PartialEndpointSettings"
  settings := [
    setting "pubsub_url" text fun d x => { d with pubsubUrl := some x },
    setting "bigquery_url" text fun d x => { d with bigqueryUrl := some x },
    setting "request_timeout_secs" unsigned64 fun d x => { d with requestTimeoutSecs := some x }]

def authSection : Section AuthSettings where
  name := "AuthSettings"
  settings := [setting "access_token" text fun d x => { d with accessToken := some x }]

def deadLetterSection : Section DeadLetterDraft where
  name := "PartialDeadLetterSettings"
  settings := [
    setting "path" text fun d x => { d with path := some x },
    setting "max_entries" unsigned64 fun d x => { d with maxEntries := some x },
    setting "ttl_secs" signed64 fun d x => { d with ttlSecs := some x }]

def loggingSection : Section LoggingDraft where
  name := "PartialLoggingSettings"
  settings := [setting "level" text fun d x => { d with level := some x }]

/-- The section of the target, whose keys may be spelled in any case: a table of texts. -/
def target : Conversion TargetDraft := fun key t =>
  match t with
  | .table _ es => do
    let texts ← es.mapM fun (name, t) => do return (name, ← text (keyWithin key name) t)
    return .ofEntries texts
  | t => .error (.misshapen (.notA "a map" t.describeInPlace) key)

/-! ## The whole setup -/

def sections : Section Draft where
  name := "PartialSettings"
  settings := [
    setting "env" target fun d x => { d with target := x },
    ⟨"relay", fun d key t => do return { d with relay := ← relaySection.read {} key t }⟩,
    ⟨"endpoints", fun d key t => do
      return { d with endpoints := ← endpointSection.read {} key t }⟩,
    ⟨"auth", fun d key t => do return { d with auth := ← authSection.read {} key t }⟩,
    ⟨"dead_letter", fun d key t => do
      return { d with deadLetter := ← deadLetterSection.read {} key t }⟩,
    ⟨"logging", fun d key t => do return { d with logging := ← loggingSection.read {} key t }⟩]

/-- The draft that a setup gives. -/
def Draft.ofTree (t : Tree) : Except Fault Draft :=
  sections.readEntries "" t.entries {}

end RowRelay.Setup
