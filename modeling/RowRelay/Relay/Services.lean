import RowRelay.BigQuery.Insert
import RowRelay.DeadLetter.Store
import RowRelay.Duration
import RowRelay.Jitter
import RowRelay.Reply

/-!
# The services a relay works with

A relay pulls, inserts, acknowledges and waits through its services. They live in a world of any
type, which every call may change. A call that the relay gives up once it is asked to stop is
either answered or abandoned: when both happen at once, the services decide which. An
acknowledgement is never given up; it may remain unanswered.
-/

set_option autoImplicit false

namespace RowRelay.Relay

open BigQuery (TableRef Row IdempotencyKey InsertError)
open PubSub (Message QueueError)

structure Services (σ : Type) where
  /-- Whether the relay has been asked to stop. -/
  cancelled : σ → Bool
  /-- Asks a subscription for messages, at most so many, with or without waiting for some. -/
  pull : String → UInt32 → Bool → σ → Reply σ (Awaited (Except QueueError (List Message)))
  /-- Inserts a row into a table under a key, trying again at most so often. -/
  insert : TableRef → Row → IdempotencyKey → UInt32 → σ →
    Reply σ (Awaited (Except InsertError Unit))
  /-- Acknowledges messages of a subscription by their ids. -/
  acknowledge : String → List String → σ → Reply σ (Option (Except QueueError Unit))
  /-- Lets time pass. -/
  pause : Duration → σ → Reply σ (Awaited Unit)
  /-- What the disk makes of a letter that is recorded: the step at which it fails, if it does. -/
  record : DeadLetter → σ → Option Store.RecordFault × σ
  /-- A key that was not handed out before. -/
  newKey : σ → IdempotencyKey × σ
  /-- The jitter of the next wait, drawn at random. -/
  draw : σ → Jitter × σ
  /-- Milliseconds since 1970. -/
  now : σ → Int64

end RowRelay.Relay
