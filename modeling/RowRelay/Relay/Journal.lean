import RowRelay.Relay.Services

/-!
# The journal of a relay

What a relay did, event by event: every call with its answer, and what else is worth a line in the
log. The log is read off the journal.
-/

set_option autoImplicit false

namespace RowRelay.Relay

open BigQuery (TableRef Row IdempotencyKey InsertError DecodeError)
open PubSub (Message QueueError)

/-! ## Reports -/

/-- The counts of one batch. -/
structure BatchReport where
  received : Nat := 0
  inserted : Nat := 0
  failed : Nat := 0
  acknowledged : Nat := 0
  deriving DecidableEq, Repr

/-- The counts of all batches that were finished, and of the pulls that brought nothing. -/
structure Stats where
  batches : Nat := 0
  emptyPulls : Nat := 0
  received : Nat := 0
  inserted : Nat := 0
  failed : Nat := 0
  acknowledged : Nat := 0
  deriving DecidableEq, Repr

namespace Stats

/-- Counts a finished batch. -/
def absorb (s : Stats) (r : BatchReport) : Stats :=
  { s with
    batches := s.batches + 1
    received := s.received + r.received
    inserted := s.inserted + r.inserted
    failed := s.failed + r.failed
    acknowledged := s.acknowledged + r.acknowledged }

def describe (s : Stats) : String :=
  s!"RelayStats \x7b batches: {s.batches}, empty_pulls: {s.emptyPulls}, " ++
    s!"received: {s.received}, inserted: {s.inserted}, failed: {s.failed}, " ++
    s!"acknowledged: {s.acknowledged} \x7d"

end Stats

/-! ## Errors -/

/-- Why a relay stops before it is asked to. -/
inductive RelayError where
  | queue (cause : QueueError)
  | decode (messageId : String) (cause : DecodeError)
  | insert (messageId : String) (cause : InsertError)
  | store (cause : StoreError)

def RelayError.message : RelayError → String
  | .queue cause => cause.message
  | .decode messageId cause => s!"message {messageId}: {cause.message}"
  | .insert messageId cause => s!"message {messageId}: {cause.message}"
  | .store cause => cause.message

/-! ## Events -/

inductive Event where
  | started (subscription : String) (table : TableRef) (batchSize : UInt32)
  | pulled (subscription : String) (most : UInt32) (immediately : Bool)
      (answer : Awaited (Except QueueError (List Message)))
  /-- A pull brought nothing, the `count`-th in a row. -/
  | idled (count : Nat) (delay : Duration)
  | decoded (messageId : String) (row : Row)
  | inserted (table : TableRef) (row : Row) (key : IdempotencyKey) (retries : UInt32)
      (answer : Awaited (Except InsertError Unit))
  | notInserted (messageId : String) (reason : String)
  | gaveUp (messageId : String) (reason : String)
  /-- A letter was recorded, or the disk failed. -/
  | recorded (letter : DeadLetter) (fault? : Option Store.RecordFault)
  | acknowledged (subscription : String) (ackIds : List String)
      (answer : Option (Except QueueError Unit))
  /-- What came of acknowledging the messages handled before a fatal error. -/
  | flushed (count : Nat) (outcome : Except QueueError Unit)
  | stoppedBefore (index total : Nat)
  | stoppedDuring (index total : Nat)
  | finished (report : BatchReport)
  | stopped (stats : Stats)
  /-- A line that a service logged. -/
  | noted (line : Log.Line)

/-- The line of the log that an event makes. -/
def Event.line? : Event → Option Log.Line
  | .started subscription table batchSize =>
    some ⟨.info, s!"relaying {subscription} -> {table.render} (batch size {batchSize.toNat})"⟩
  | .idled count delay => some ⟨.debug, s!"empty pull #{count}, waiting {delay.describe}"⟩
  | .decoded messageId row =>
    some ⟨.debug, s!"pulled message {messageId}: {(Json.Value.object row).render}"⟩
  | .notInserted messageId reason => some ⟨.warn, s!"message {messageId} not inserted: {reason}"⟩
  | .gaveUp messageId reason => some ⟨.warn, s!"dead-lettering message {messageId}: {reason}"⟩
  | .flushed count (.ok ()) =>
    some ⟨.info, s!"acknowledged {count} messages before stopping"⟩
  | .flushed count (.error cause) =>
    some ⟨.warn, s!"could not acknowledge {count} messages before stopping: {cause.message}"⟩
  | .stoppedBefore index total =>
    some ⟨.info, s!"cancelled mid-batch after {index} of {total} messages; none acknowledged"⟩
  | .stoppedDuring index total =>
    some ⟨.info,
      s!"cancelled while delivering message {index} of {total}; none acknowledged"⟩
  | .finished report =>
    some ⟨.info, s!"batch done: received={report.received} inserted={report.inserted} " ++
      s!"failed={report.failed} acknowledged={report.acknowledged}"⟩
  | .stopped stats => some ⟨.info, s!"relay stopped: {stats.describe}"⟩
  | .noted line => some line
  | .pulled .. | .inserted .. | .recorded .. | .acknowledged .. => none

/-- The log of a run. -/
def logOf (journal : List Event) : List Log.Line :=
  journal.filterMap Event.line?

end RowRelay.Relay
