import RowRelay.Duration
import RowRelay.Http.Failure
import RowRelay.Http.Url
import RowRelay.Jitter
import RowRelay.Json.Fault
import RowRelay.Reply

/-!
# Requests and responses

A request posts a body in JSON to an address, with a bearer token if there is one. It is sent
through a network, which delivers it and brings a response, or fails to.
-/

set_option autoImplicit false

namespace RowRelay.Http

/-! ## Requests -/

structure Request where
  url : Url
  token : Option String
  body : String
  deriving DecidableEq, Repr

namespace Request

/-- Whether a header can hold a text: it has no control characters other than the tab. -/
def isHeaderText (s : String) : Bool :=
  s.toList.all fun c => c == '\t' || (' ' ≤ c && c != '\x7f')

/-- The request that posts a body to the address that a text spells. An address without a host is
refused before the token is looked at, any other that cannot be used after that. -/
def build (url : String) (token : Option String) (body : Json.Value) : Except Failure Request :=
  match Url.parse? url with
  | none => .error .unbuildable
  | some url =>
    if url.host?.isNone then .error (.unsupported url.render)
    else
      let url := url.withoutUser
      if !token.all isHeaderText then .error .unbuildable
      else if !url.isRequestable then .error (.unsupported url.render)
      else .ok ⟨url, token, body.render⟩

/-- The first line of a request. -/
def line (r : Request) : String :=
  s!"POST {r.url.target} HTTP/1.1"

def agent : String := "pubsub-relay/0.1.0"

def headers (r : Request) : List (String × String) :=
  let authorization := match r.token with
    | some token => [("authorization", s!"Bearer {token}")]
    | none => []
  authorization ++
    [("content-type", "application/json"), ("user-agent", agent), ("accept", "*/*")]

end Request

/-! ## Responses -/

structure Response where
  status : Nat
  body : Bytes
  /-- Whether the body came as long as it was announced. -/
  complete : Bool := true
  deriving DecidableEq, Repr

namespace Response

def isSuccess (r : Response) : Bool :=
  200 ≤ r.status && r.status < 300

/-- Whether the fault may pass: a timeout, too many requests, or a fault of the service. -/
def isTransient (r : Response) : Bool :=
  r.status == 408 || r.status == 429 || (500 ≤ r.status && r.status < 600)

/-- Whether a response with this status has a body. -/
def hasBody (r : Response) : Bool :=
  r.status != 204 && r.status != 304

/-- The body, if it came whole. -/
def content? (r : Response) : Option Bytes :=
  if !r.hasBody then some [] else if r.complete then some r.body else none

/-- The body as a text for a message; one that did not come whole is left out. -/
def text (r : Response) : String :=
  match r.content? with
  | some bs => Utf8.decodeLossy bs
  | none => ""

/-- Reads the body. -/
def read {α : Type} (r : Response) (parse : Bytes → Except Json.Fault α) : Except Failure α :=
  match r.content? with
  | none => .error .undecodable
  | some bs =>
    match parse bs with
    | .ok a => .ok a
    | .error _ => .error .undecodable

end Response

/-! ## Networks -/

/-- What came of sending a request. -/
inductive Delivery where
  | failed
  | answered (r : Response)
  deriving DecidableEq, Repr

/-- What requests are sent through. It lives in a world of any type. -/
structure Network (σ : Type) where
  send : Request → σ → Reply σ (Awaited Delivery)
  /-- Lets time pass. -/
  pause : Duration → σ → Reply σ (Awaited Unit)
  /-- The jitter of the next wait, drawn at random. -/
  draw : σ → Jitter × σ

/-- Where the requests of a service go, and with which token. -/
structure Endpoint where
  base : String
  token : Option String
  deriving DecidableEq, Repr

namespace Endpoint

/-- The address of a call: the base without slashes at its end, and a path. -/
def url (e : Endpoint) (path : String) : String :=
  String.ofList (e.base.toList.reverse.dropWhile (· == '/')).reverse ++ path

/-- Posts a body to a path of a service. -/
def post {σ : Type} (e : Endpoint) (net : Network σ) (path : String) (body : Json.Value)
    (world : σ) : Reply σ (Awaited (Except Failure Response)) :=
  match Request.build (e.url path) e.token body with
  | .error failure => ⟨.answered (.error failure), [], world⟩
  | .ok request =>
    let reply := net.send request world
    let answer := reply.answer.map fun delivery =>
      match delivery with
      | .failed => .error (.undelivered request.url.render)
      | .answered response => .ok response
    ⟨answer, reply.lines, reply.world⟩

end Endpoint

end RowRelay.Http
