import RowRelay.Http.Exchange

/-!
# A server with prepared responses

A server answers requests with responses prepared in advance, in their order, and remembers what it
was asked. In place of a response it may close the connection. Beyond the last response it takes no
connections.
-/

set_option autoImplicit false

namespace RowRelay.Http

structure Server where
  /-- The authority of the addresses that lead to the server. -/
  authority : String
  /-- The responses left; nothing stands for a connection that is closed without one. -/
  responses : List (Option Response)
  /-- The requests seen, in order. -/
  seen : List Request := []

namespace Server

/-- Whether a request reaches the server. -/
def isReachedBy (s : Server) (r : Request) : Bool :=
  r.url.scheme == "http" && (r.url.authority.map Authority.render) == some s.authority

/-- Notes that a request was seen. -/
def note (s : Server) (r : Request) : Server :=
  { s with seen := s.seen ++ [r] }

/-- Takes a request. -/
def receive (s : Server) (r : Request) : Delivery × Server :=
  if !s.isReachedBy r then (.failed, s)
  else match s.responses with
    | [] => (.failed, s)
    | none :: responses => (.failed, { s with responses }.note r)
    | some response :: responses => (.answered response, { s with responses }.note r)

/-- A network that leads to one server, in which waiting costs no time and every draw brings the
same jitter. -/
def network (jitter : Jitter) : Network Server where
  send r s :=
    let (delivery, s) := s.receive r
    ⟨.answered delivery, [], s⟩
  pause _ s := ⟨.answered (), [], s⟩
  draw s := (jitter, s)

end Server

end RowRelay.Http
