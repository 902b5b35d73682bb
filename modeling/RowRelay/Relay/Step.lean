import RowRelay.Backoff
import RowRelay.Relay.Journal
import RowRelay.Setup.Settings

/-!
# The relay loop

`step` is one round: pull, insert the messages one by one in their order, acknowledge the batch
with a single call. `run` goes round until the relay is asked to stop or meets a fatal error.

A request to stop is heeded at the start of a step, during a pull, the wait after an empty pull and
a delivery, and between messages. A delivery that is given up leaves its message unacknowledged,
and once a step stops in the middle of a batch it inserts and acknowledges nothing more.
-/

set_option autoImplicit false

namespace RowRelay

open BigQuery (TableRef Row IdempotencyKey InsertError DecodeError)
open PubSub (Message QueueError)
open Relay (Services Event BatchReport Stats RelayError)

/-- What a relay moves, where to, and how. -/
structure Relay where
  subscription : String
  table : TableRef
  settings : RelaySettings

namespace Relay

def ofTarget (target : Target) (settings : RelaySettings) : Relay :=
  ⟨target.subscriptionPath, target.table, settings⟩

/-- What changes while a relay runs. -/
structure State (σ : Type) where
  world : σ
  store : Option Store
  backoff : Backoff
  stats : Stats
  journal : List Event

variable {σ : Type}

namespace State

/-- A relay that has done nothing yet. -/
def start (settings : RelaySettings) (store : Option Store) (world : σ) : State σ where
  world := world
  store := store
  backoff := .ofPolicy (.doubling (.ofMillis settings.emptyBackoffInitialMs.toNat)
    (.ofMillis settings.emptyBackoffMaxMs.toNat))
  stats := {}
  journal := []

/-- Writes an event into the journal. -/
def note (s : State σ) (e : Event) : State σ :=
  { s with journal := s.journal ++ [e] }

/-- Writes a call into the journal, followed by the lines it logged, and goes on in the world
after it. -/
def settle {α : Type} (s : State σ) (r : Reply σ α) (e : Event) : State σ :=
  { s with world := r.world, journal := s.journal ++ e :: r.lines.map .noted }

end State

/-! ## One message -/

/-- What came of a message that does not stop the relay. -/
inductive Delivery where
  | inserted
  | failed (reason : String)
  deriving DecidableEq, Repr

/-- Gives up on a message, and keeps it if there is a store. The relay goes on unless the store
fails. -/
def giveUp (svc : Services σ) (m : Message) (reason : String) (s : State σ) :
    Except RelayError Delivery × State σ :=
  let s := s.note (.gaveUp m.messageId reason)
  match s.store with
  | none => (.ok (.failed reason), s)
  | some store =>
    let letter := DeadLetter.ofMessage m reason (svc.now s.world)
    let (fault?, world) := svc.record letter s.world
    let (answer, store) := store.tryRecord letter fault?
    let s := { s with world, store := some store }.note (.recorded letter fault?)
    match answer with
    | .ok () => (.ok (.failed reason), s)
    | .error cause => (.error (.store cause), s)

/-- What a message whose row was not inserted means under the failure policy. -/
def insertFailed (svc : Services σ) (relay : Relay) (m : Message) (cause : InsertError)
    (s : State σ) : Except RelayError Delivery × State σ :=
  match relay.settings.failurePolicy with
  | .deadLetter => giveUp svc m cause.message s
  | .abort =>
    if cause.isRowLevel then
      (.ok (.failed cause.message), s.note (.notInserted m.messageId cause.message))
    else (.error (.insert m.messageId cause), s)

/-- Decodes and inserts a message. An error stops the relay. -/
def deliver (svc : Services σ) (relay : Relay) (m : Message) (s : State σ) :
    Awaited (Except RelayError Delivery) × State σ :=
  match BigQuery.decodeRow m with
  | .error cause =>
    match relay.settings.failurePolicy with
    | .abort => (.answered (.error (.decode m.messageId cause)), s)
    | .deadLetter =>
      let (delivery, s) := giveUp svc m cause.message s
      (.answered delivery, s)
  | .ok row =>
    let s := s.note (.decoded m.messageId row)
    let (key, world) := svc.newKey s.world
    let retries := relay.settings.insertRetries
    let reply := svc.insert relay.table row key retries world
    let s := s.settle reply (.inserted relay.table row key retries reply.answer)
    match reply.answer with
    | .abandoned => (.abandoned, s)
    | .answered (.ok ()) => (.answered (.ok .inserted), s)
    | .answered (.error cause) =>
      let (delivery, s) := insertFailed svc relay m cause s
      (.answered delivery, s)

/-! ## One batch -/

/-- The counts of the messages handled so far and the ids to acknowledge, in order. -/
structure Progress where
  inserted : Nat := 0
  failed : Nat := 0
  ackIds : List String := []

/-- Counts a message, and takes its id if the policy acknowledges it. -/
def Progress.count (p : Progress) (policy : AckPolicy) (m : Message) : Delivery → Progress
  | .inserted => { p with inserted := p.inserted + 1, ackIds := p.ackIds ++ [m.ackId] }
  | .failed _ =>
    { p with
      failed := p.failed + 1
      ackIds := if policy = .afterAttempt then p.ackIds ++ [m.ackId] else p.ackIds }

/-- How the deliveries of a batch ended. -/
inductive BatchEnd where
  | delivered (p : Progress)
  | broken (e : RelayError) (p : Progress)
  | cancelled

/-- Delivers messages in order; `index` of `total` came before. -/
def deliverAll (svc : Services σ) (relay : Relay) (total : Nat) :
    (index : Nat) → List Message → Progress → State σ → BatchEnd × State σ
  | _, [], p, s => (.delivered p, s)
  | index, m :: ms, p, s =>
    if svc.cancelled s.world then (.cancelled, s.note (.stoppedBefore index total))
    else
      match deliver svc relay m s with
      | (.abandoned, s) => (.cancelled, s.note (.stoppedDuring (index + 1) total))
      | (.answered (.error e), s) => (.broken e p, s)
      | (.answered (.ok delivery), s) =>
        deliverAll svc relay total (index + 1) ms
          (p.count relay.settings.ackPolicy m delivery) s

/-- Acknowledges messages, if there are any. There is no answer when the call gets none. -/
def acknowledge (svc : Services σ) (relay : Relay) (ackIds : List String) (s : State σ) :
    Option (Except QueueError Unit) × State σ :=
  if ackIds.isEmpty then (some (.ok ()), s)
  else
    let reply := svc.acknowledge relay.subscription ackIds s.world
    (reply.answer, s.settle reply (.acknowledged relay.subscription ackIds reply.answer))

/-! ## One step -/

/-- What a step that met no error came to. -/
inductive Outcome where
  /-- The pull brought nothing, and the wait after it is over. -/
  | idle
  | processed (report : BatchReport)
  /-- The relay was asked to stop. -/
  | cancelled
  deriving DecidableEq, Repr

inductive StepEnd where
  | done (outcome : Outcome)
  | failed (e : RelayError)
  /-- An acknowledgement got no answer, and the step never ends. -/
  | unanswered

/-- Waits after a pull that brought nothing. -/
def idle (svc : Services σ) (s : State σ) : StepEnd × State σ :=
  let backoff := s.backoff.miss
  let (jitter, world) := svc.draw s.world
  let delay := backoff.delay jitter
  let stats := { s.stats with emptyPulls := s.stats.emptyPulls + 1 }
  let s := { s with backoff, stats, world }.note (.idled backoff.consecutive delay)
  let reply := svc.pause delay s.world
  let s := { s with world := reply.world, journal := s.journal ++ reply.lines.map .noted }
  match reply.answer with
  | .answered () => (.done .idle, s)
  | .abandoned => (.done .cancelled, s)

/-- Acknowledges a batch that was delivered and counts it. -/
def finish (svc : Services σ) (relay : Relay) (received : Nat) (p : Progress) (s : State σ) :
    StepEnd × State σ :=
  match acknowledge svc relay p.ackIds s with
  | (none, s) => (.unanswered, s)
  | (some (.error e), s) => (.failed (.queue e), s)
  | (some (.ok ()), s) =>
    let report : BatchReport := ⟨received, p.inserted, p.failed, p.ackIds.length⟩
    (.done (.processed report),
      { s with stats := s.stats.absorb report }.note (.finished report))

/-- Acknowledges what was handled before a fatal error, which is reported whatever comes of it. -/
def breakOff (svc : Services σ) (relay : Relay) (e : RelayError) (p : Progress) (s : State σ) :
    StepEnd × State σ :=
  match acknowledge svc relay p.ackIds s with
  | (none, s) => (.unanswered, s)
  | (some outcome, s) =>
    (.failed e, if p.ackIds.isEmpty then s else s.note (.flushed p.ackIds.length outcome))

/-- Delivers a batch and acknowledges it. -/
def process (svc : Services σ) (relay : Relay) (batch : List Message) (s : State σ) :
    StepEnd × State σ :=
  match deliverAll svc relay batch.length 0 batch {} { s with backoff := s.backoff.reset } with
  | (.cancelled, s) => (.done .cancelled, s)
  | (.broken e p, s) => breakOff svc relay e p s
  | (.delivered p, s) => finish svc relay batch.length p s

/-- One round of the loop. -/
def step (svc : Services σ) (relay : Relay) (s : State σ) : StepEnd × State σ :=
  if svc.cancelled s.world then (.done .cancelled, s)
  else
    let most := relay.settings.batchSize
    let immediately := relay.settings.returnImmediately
    let reply := svc.pull relay.subscription most immediately s.world
    let s := s.settle reply (.pulled relay.subscription most immediately reply.answer)
    match reply.answer with
    | .abandoned => (.done .cancelled, s)
    | .answered (.error e) => (.failed (.queue e), s)
    | .answered (.ok []) => idle svc s
    | .answered (.ok batch) => process svc relay batch s

/-! ## Many steps -/

inductive RunEnd where
  | stopped (stats : Stats)
  | failed (e : RelayError)
  | unanswered

/-- At most `n` steps; there is no end yet when all of them were taken. -/
def steps (svc : Services σ) (relay : Relay) : (n : Nat) → State σ → Option RunEnd × State σ
  | 0, s => (none, s)
  | n + 1, s =>
    match step svc relay s with
    | (.done .cancelled, s) => (some (.stopped s.stats), s.note (.stopped s.stats))
    | (.done _, s) => steps svc relay n s
    | (.failed e, s) => (some (.failed e), s)
    | (.unanswered, s) => (some .unanswered, s)

/-- A run of at most `n` steps. -/
def run (svc : Services σ) (relay : Relay) (n : Nat) (s : State σ) : Option RunEnd × State σ :=
  steps svc relay n
    (s.note (.started relay.subscription relay.table relay.settings.batchSize))

end Relay

end RowRelay
