import RowRelay.Http.Exchange
import RowRelay.PubSub.Message

/-!
# Calls to a subscription

Pulling and acknowledging through a network. A status outside the two hundreds is an error with
the body as its text; the body of the answer to an acknowledgement is not looked at.
-/

set_option autoImplicit false

namespace RowRelay.PubSub

open Http (Endpoint Network)

variable {σ : Type}

/-- Where a call to a subscription goes. -/
def callPath (subscription method : String) : String :=
  s!"/v1/{subscription}:{method}"

/-- The messages in the answer to a pull. -/
def readPull (subscription : String) (response : Http.Response) :
    Except QueueError (List Message) :=
  if !response.isSuccess then .error (.status "pull" response.status response.text)
  else (response.read messagesOf).mapError (.pull subscription)

/-- Asks a subscription for messages. -/
def pull (net : Network σ) (e : Endpoint) (subscription : String) (most : UInt32)
    (immediately : Bool) (world : σ) : Reply σ (Awaited (Except QueueError (List Message))) :=
  let reply := e.post net (callPath subscription "pull") (pullRequest immediately most) world
  let answer : Awaited (Except QueueError (List Message)) :=
    reply.answer.map fun delivery =>
      match delivery with
      | .error failure => .error (.pull subscription failure)
      | .ok response => readPull subscription response
  let lines : List Log.Line := match answer with
    | .answered (.ok ms) => [⟨.debug, s!"pulled {ms.length} messages from {subscription}"⟩]
    | _ => []
  ⟨answer, reply.lines ++ lines, reply.world⟩

/-- Acknowledges messages of a subscription by their ids. -/
def acknowledge (net : Network σ) (e : Endpoint) (subscription : String)
    (ackIds : List String) (world : σ) : Reply σ (Awaited (Except QueueError Unit)) :=
  let reply :=
    e.post net (callPath subscription "acknowledge") (acknowledgeRequest ackIds) world
  let answer := reply.answer.map fun delivery =>
    match delivery with
    | .error failure => .error (.acknowledge subscription failure)
    | .ok response =>
      if response.isSuccess then .ok ()
      else .error (.status "acknowledge" response.status response.text)
  ⟨answer, reply.lines, reply.world⟩

end RowRelay.PubSub
