import RowRelay.BigQuery.Row

/-!
# Settings

What a relay is told: where messages come from and where their rows go, how the loop behaves, and
how the services are reached. A section that is not given takes its default.
-/

set_option autoImplicit false

namespace RowRelay

/-! ## Where -/

/-- The source subscription and the destination table. -/
structure Target where
  projectId : String
  datasetId : String
  tableId : String
  subscription : String
  deriving DecidableEq, Repr

/-- Whether the characters occur in the others, next to each other and in order. -/
def Text.isWithin (part : List Char) : List Char → Bool
  | [] => part.isEmpty
  | c :: cs => part.isPrefixOf (c :: cs) || isWithin part cs

namespace Target

/-- The full name of the subscription. A bare name is placed under the project; one that already
names its place is used as it is. -/
def subscriptionPath (t : Target) : String :=
  if Text.isWithin "/subscriptions/".toList t.subscription.toList then t.subscription
  else s!"projects/{t.projectId}/subscriptions/{t.subscription}"

def table (t : Target) : BigQuery.TableRef :=
  ⟨t.projectId, t.datasetId, t.tableId⟩

end Target

/-! ## How -/

/-- What to do with a message that cannot be decoded or inserted. -/
inductive FailurePolicy where
  /-- Stop with the error. -/
  | abort
  /-- Keep the message in the store of dead letters and go on. -/
  | deadLetter
  deriving DecidableEq, Repr

/-- Which messages of a batch are acknowledged. -/
inductive AckPolicy where
  /-- Every message that was tried, whatever came of it. -/
  | afterAttempt
  /-- The messages whose row was inserted. -/
  | afterInsert
  deriving DecidableEq, Repr

structure RelaySettings where
  batchSize : UInt32 := 100
  returnImmediately : Bool := false
  insertRetries : UInt32 := 5
  insertRetryBaseMs : UInt64 := 1000
  emptyBackoffInitialMs : UInt64 := 250
  emptyBackoffMaxMs : UInt64 := 30000
  failurePolicy : FailurePolicy := .abort
  ackPolicy : AckPolicy := .afterAttempt
  deriving DecidableEq, Repr

structure EndpointSettings where
  pubsubUrl : String := "https://pubsub.googleapis.com"
  bigqueryUrl : String := "https://bigquery.googleapis.com"
  requestTimeoutSecs : UInt64 := 120
  deriving DecidableEq, Repr

structure AuthSettings where
  accessToken : Option String := none
  deriving DecidableEq, Repr

structure DeadLetterSettings where
  path : String := "relay_dead_letters"
  maxEntries : Option UInt64 := some 10000
  ttlSecs : Option Int64 := none
  deriving DecidableEq, Repr

structure LoggingSettings where
  level : String := "info"
  deriving DecidableEq, Repr

structure Settings where
  target : Target
  relay : RelaySettings := {}
  endpoints : EndpointSettings := {}
  auth : AuthSettings := {}
  deadLetter : DeadLetterSettings := {}
  logging : LoggingSettings := {}
  deriving DecidableEq, Repr

end RowRelay
