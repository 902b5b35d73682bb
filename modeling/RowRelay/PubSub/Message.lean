import RowRelay.Http.Failure
import RowRelay.Json.Record

/-!
# Messages of a subscription

What a pull hands out, the bodies of the two calls, and what can go wrong with them. The answer to
a pull leaves out whatever is empty; an entry without a message is dropped together with the id
that would acknowledge it.
-/

set_option autoImplicit false

namespace RowRelay.PubSub

open Json (Value Field Shape Reader)

/-- A message as pulled, its payload still in transport form. -/
structure Message where
  ackId : String
  messageId : String
  data : String
  publishTime : Option String
  attributes : List (String × String)
  deriving DecidableEq, Repr

/-! ## Errors -/

inductive QueueError where
  | pull (subscription : String) (cause : Http.Failure)
  | acknowledge (subscription : String) (cause : Http.Failure)
  | status (operation : String) (code : Nat) (body : String)
  deriving DecidableEq, Repr

def QueueError.message : QueueError → String
  | .pull subscription cause => s!"pull from {subscription} failed: {cause.message}"
  | .acknowledge subscription cause =>
    s!"acknowledge on {subscription} failed: {cause.message}"
  | .status operation code body => s!"queue returned HTTP {code} for {operation}: {body}"

/-! ## Requests -/

/-- The body of a pull. -/
def pullRequest (returnImmediately : Bool) (maxMessages : UInt32) : Value :=
  .object [("returnImmediately", .bool returnImmediately),
    ("maxMessages", .number (.int maxMessages.toNat))]

/-- The body of an acknowledgement. -/
def acknowledgeRequest (ackIds : List String) : Value :=
  .object [("ackIds", .array (ackIds.map .string))]

/-! ## The answer to a pull -/

/-- What a message holds besides the id that acknowledges it. -/
structure Content where
  data : String
  messageId : String
  publishTime : Option String
  attributes : List (String × String)

def Content.shape : Shape Content where
  name := "WireMessage"
  empty := ⟨"", "", none, []⟩
  fields := [
    ⟨"data", .defaulted, fun m n c => do
      let (x, c) ← Json.readString n c
      return ({ m with data := x }, c)⟩,
    ⟨"messageId", .defaulted, fun m n c => do
      let (x, c) ← Json.readString n c
      return ({ m with messageId := x }, c)⟩,
    ⟨"publishTime", .optional, fun m n c => do
      let (x, c) ← Json.readOption Json.readString n c
      return ({ m with publishTime := x }, c)⟩,
    ⟨"attributes", .defaulted, fun m n c => do
      let (x, c) ← Json.readMap Json.readString n c
      return ({ m with attributes := x }, c)⟩]

/-- An entry of the answer. -/
structure Entry where
  ackId : String
  content : Option Content

def Entry.shape : Shape Entry where
  name := "WireReceivedMessage"
  empty := ⟨"", none⟩
  fields := [
    ⟨"ackId", .required, fun m n c => do
      let (x, c) ← Json.readString n c
      return ({ m with ackId := x }, c)⟩,
    ⟨"message", .optional, fun m n c => do
      let (x, c) ← Json.readOption Content.shape.read n c
      return ({ m with content := x }, c)⟩]

def Entry.message? (e : Entry) : Option Message :=
  e.content.map fun m => ⟨e.ackId, m.messageId, m.data, m.publishTime, m.attributes⟩

/-- The whole answer, a list of entries. -/
def responseShape : Shape (List Entry) where
  name := "PullResponse"
  empty := []
  fields := [⟨"receivedMessages", .defaulted, fun _ n c => Json.readList Entry.shape.read n c⟩]

/-- The messages that the answer to a pull holds, in order. -/
def messagesOf (body : Bytes) : Except Json.Fault (List Message) := do
  let entries ← Json.readAll responseShape.read body
  return entries.filterMap Entry.message?

end RowRelay.PubSub
