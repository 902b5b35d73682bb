import RowRelay.Http.Server
import RowRelay.Relay.Remote

/-!
# The world of a session

What the program runs in: a server, a clock that only waiting moves, a supply of keys, and a user
who may ask it to stop. The user does so while a request is held: the first one that the server
takes after its last response. A request that is given up then stays without an answer; one that is
waited for gets the response that the server releases, if there is one. The disk fails at the
letters of the session that it is set to fail at.
-/

set_option autoImplicit false

namespace RowRelay.App

open Http (Request Response Delivery Network Server)

/-- What happens to a request after the last response. -/
structure Holding where
  /-- The response released once the program was asked to stop. -/
  release : Option Response
  /-- Whether the user asks again when nothing happens. -/
  insists : Bool

structure Session where
  server : Server
  /-- Requests after the last response are refused when there is nothing here. -/
  holding : Option Holding := none
  /-- Whether the program was asked to stop. -/
  stopping : Bool := false
  clock : Duration := ⟨0⟩
  /-- Milliseconds since 1970 when the clock stood at zero. -/
  epoch : Int64 := 0
  /-- How many keys were handed out. -/
  keys : Nat := 0
  /-- What every draw brings. -/
  jitter : Jitter := .middle
  /-- What the disk makes of the letters recorded; it does not fail behind these. -/
  records : List (Option Store.RecordFault) := []

namespace Session

/-- The line about a request to stop. -/
def stopLine : Log.Line := ⟨.info, "Shutdown signal received."⟩

/-- Sends a request. One that is held makes the user ask the program to stop; only if the request
is waited for does the response released answer it. -/
def send (waits : Bool) (r : Request) (s : Session) : Reply Session (Awaited Delivery) :=
  match s.holding with
  | some holding =>
    if s.server.isReachedBy r && s.server.responses.isEmpty then
      let answer := match waits, holding.release with
        | true, some response => .answered (.answered response)
        | _, _ => .abandoned
      ⟨answer, [stopLine], { s with server := s.server.note r, stopping := true }⟩
    else
      let (delivery, server) := s.server.receive r
      ⟨.answered delivery, [], { s with server }⟩
  | none =>
    let (delivery, server) := s.server.receive r
    ⟨.answered delivery, [], { s with server }⟩

/-- The network of a session. -/
def network (waits : Bool) : Network Session where
  send := send waits
  pause d s := ⟨.answered (), [], { s with clock := ⟨s.clock.nanos + d.nanos⟩ }⟩
  draw s := (s.jitter, s)

/-- The session as the world of a relay. -/
def host : Relay.Host Session where
  network := network false
  patient := network true
  cancelled s := s.stopping
  record _ s := (s.records.headD none, { s with records := s.records.tail })
  newKey s := (.ofNumber s.keys, { s with keys := s.keys + 1 })
  now s := s.epoch + Int64.ofNat (s.clock.nanos / 1000000)

end Session

end RowRelay.App
