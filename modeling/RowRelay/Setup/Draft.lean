import RowRelay.Setup.Fault
import RowRelay.Setup.Settings
import RowRelay.Text.Blank
import RowRelay.Text.Capital

/-!
# Settings under way

What a setup gives, each setting perhaps missing, and the settings that come of it: missing ones
take their defaults, and settings that make no sense together are refused. The four names of the
target have no default.
-/

set_option autoImplicit false

namespace RowRelay.Setup

/-! ## Drafts -/

structure TargetDraft where
  projectId : Option String := none
  datasetId : Option String := none
  tableId : Option String := none
  subscription : Option String := none
  deriving DecidableEq, Repr

structure RelayDraft where
  batchSize : Option UInt32 := none
  returnImmediately : Option Bool := none
  insertRetries : Option UInt32 := none
  insertRetryBaseMs : Option UInt64 := none
  emptyBackoffInitialMs : Option UInt64 := none
  emptyBackoffMaxMs : Option UInt64 := none
  failurePolicy : Option FailurePolicy := none
  ackPolicy : Option AckPolicy := none
  deriving DecidableEq, Repr

structure EndpointDraft where
  pubsubUrl : Option String := none
  bigqueryUrl : Option String := none
  requestTimeoutSecs : Option UInt64 := none
  deriving DecidableEq, Repr

structure DeadLetterDraft where
  path : Option String := none
  maxEntries : Option UInt64 := none
  ttlSecs : Option Int64 := none
  deriving DecidableEq, Repr

structure LoggingDraft where
  level : Option String := none
  deriving DecidableEq, Repr

structure Draft where
  target : TargetDraft := {}
  relay : RelayDraft := {}
  endpoints : EndpointDraft := {}
  auth : AuthSettings := {}
  deadLetter : DeadLetterDraft := {}
  logging : LoggingDraft := {}
  deriving DecidableEq, Repr

/-! ## The target -/

namespace TargetDraft

/-- Sets the name that a key stands for, in whatever case it is spelled. Other keys set nothing. -/
def set (d : TargetDraft) (entry : String × String) : TargetDraft :=
  match Text.lowerCase entry.1 with
  | "project_id" => { d with projectId := some entry.2 }
  | "dataset_id" => { d with datasetId := some entry.2 }
  | "table_id" => { d with tableId := some entry.2 }
  | "subscription" => { d with subscription := some entry.2 }
  | _ => d

/-- Whether a key has a capital letter. -/
def hasCapital (key : String) : Bool :=
  key.toList.any Text.isCapital

/-- The target that entries name, in the order in which they stand. Entries spelled in lower case
come after all others and so win. -/
def ofEntries (entries : List (String × String)) : TargetDraft :=
  (entries.filter (fun e => hasCapital e.1) ++ entries.filter (fun e => !hasCapital e.1)).foldl
    set {}

/-- The value of a name that must be given and must not be blank. -/
def require (value : Option String) (key : String) : Except Fault String :=
  match value with
  | some v => if Text.isBlankText v then .error (.unset ("env." ++ key)) else .ok v
  | none => .error (.unset ("env." ++ key))

def complete (d : TargetDraft) : Except Fault Target := do
  let projectId ← require d.projectId "PROJECT_ID"
  let datasetId ← require d.datasetId "DATASET_ID"
  let tableId ← require d.tableId "TABLE_ID"
  let subscription ← require d.subscription "SUBSCRIPTION"
  return { projectId, datasetId, tableId, subscription }

end TargetDraft

/-! ## The rest -/

/-- The settings that a draft gives, before they are checked. -/
def RelayDraft.fill (d : RelayDraft) : RelaySettings :=
  let default : RelaySettings := {}
  { batchSize := d.batchSize.getD default.batchSize
    returnImmediately := d.returnImmediately.getD default.returnImmediately
    insertRetries := d.insertRetries.getD default.insertRetries
    insertRetryBaseMs := d.insertRetryBaseMs.getD default.insertRetryBaseMs
    emptyBackoffInitialMs := d.emptyBackoffInitialMs.getD default.emptyBackoffInitialMs
    emptyBackoffMaxMs := d.emptyBackoffMaxMs.getD default.emptyBackoffMaxMs
    failurePolicy := d.failurePolicy.getD default.failurePolicy
    ackPolicy := d.ackPolicy.getD default.ackPolicy }

def RelayDraft.complete (d : RelayDraft) : Except Fault RelaySettings :=
  let settings := d.fill
  if settings.batchSize = 0 then .error .emptyBatches
  else if settings.emptyBackoffMaxMs < settings.emptyBackoffInitialMs then .error .crossedBackoff
  else .ok settings

def EndpointDraft.complete (d : EndpointDraft) : EndpointSettings :=
  let default : EndpointSettings := {}
  { pubsubUrl := d.pubsubUrl.getD default.pubsubUrl
    bigqueryUrl := d.bigqueryUrl.getD default.bigqueryUrl
    requestTimeoutSecs := d.requestTimeoutSecs.getD default.requestTimeoutSecs }

/-- The settings that a draft gives, before they are checked. -/
def DeadLetterDraft.fill (d : DeadLetterDraft) : DeadLetterSettings :=
  let default : DeadLetterSettings := {}
  { path := d.path.getD default.path
    maxEntries := d.maxEntries <|> default.maxEntries
    ttlSecs := d.ttlSecs <|> default.ttlSecs }

def DeadLetterDraft.complete (d : DeadLetterDraft) : Except Fault DeadLetterSettings :=
  let settings := d.fill
  match settings.ttlSecs with
  | some ttl => if ttl ≤ 0 then .error .nonPositiveTtl else .ok settings
  | none => .ok settings

def LoggingDraft.complete (d : LoggingDraft) : LoggingSettings :=
  let default : LoggingSettings := {}
  { level := d.level.getD default.level }

/-- The settings that a draft gives. Of several faults the first in the order of the sections is
reported. -/
def Draft.complete (d : Draft) : Except Fault Settings := do
  let target ← d.target.complete
  let relay ← d.relay.complete
  let deadLetter ← d.deadLetter.complete
  return {
    target
    relay
    endpoints := d.endpoints.complete
    auth := d.auth
    deadLetter
    logging := d.logging.complete }

end RowRelay.Setup
