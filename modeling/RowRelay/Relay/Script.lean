import RowRelay.Relay.Step

/-!
# Scripted services

Services that answer from lists of replies prepared in advance, on a clock of their own: waiting
costs nothing but moves the clock. A reply may come at once, later or never, and may bring the
request to stop with it. A request to stop takes effect at a set time; it wins over an answer that
comes later or at the same time, but not over one that comes at once.
-/

set_option autoImplicit false

namespace RowRelay.Relay

open BigQuery (IdempotencyKey InsertError)
open PubSub (Message QueueError)

/-- A reply prepared in advance. -/
structure Planned (α : Type) where
  answer : α
  /-- Whether the relay is asked to stop when the call is made. -/
  cancels : Bool := false
  /-- How long the answer takes; there is none when it never comes. -/
  delay : Option Duration := some ⟨0⟩

structure Script where
  pulls : List (Planned (Except QueueError (List Message)))
  inserts : List (Planned (Except InsertError Unit)) := []
  acks : List (Planned (Except QueueError Unit)) := []
  /-- What the disk makes of the letters recorded. -/
  records : List (Option Store.RecordFault) := []
  /-- The time that has passed. -/
  clock : Duration := ⟨0⟩
  /-- When the relay is asked to stop. -/
  cancelAt : Option Duration := none
  /-- How many keys were handed out. -/
  keys : Nat := 0
  /-- What every draw brings. -/
  jitter : Jitter := .middle
  /-- Milliseconds since 1970 when the clock stood at zero. -/
  epoch : Int64 := 0

namespace Script

/-- How long after a call without answer the relay is asked to stop. -/
def patience : Duration := .ofMillis 10

def cancelled (s : Script) : Bool :=
  match s.cancelAt with
  | some t => t.nanos ≤ s.clock.nanos
  | none => false

/-- Asks the relay to stop so long from now, unless it is asked to before. -/
def cancelIn (s : Script) (d : Duration) : Script :=
  let t := s.clock.nanos + d.nanos
  { s with cancelAt := some ⟨match s.cancelAt with
    | some u => min t u.nanos
    | none => t⟩ }

def wait (s : Script) (d : Duration) : Script :=
  { s with clock := ⟨s.clock.nanos + d.nanos⟩ }

/-- Moves the clock to the time of the request to stop. -/
def waitForCancel (s : Script) : Script :=
  match s.cancelAt with
  | some t => { s with clock := ⟨max s.clock.nanos t.nanos⟩ }
  | none => s

/-- A call that is given up when the relay is asked to stop. -/
def race {α : Type} (s : Script) (p : Planned α) : Reply Script (Awaited α) :=
  let s := if p.cancels then s.cancelIn ⟨0⟩ else s
  match p.delay with
  | none => ⟨.abandoned, [], (s.cancelIn patience).waitForCancel⟩
  | some d =>
    if d.nanos = 0 then ⟨.answered p.answer, [], s⟩
    else if (s.wait d).cancelled then ⟨.abandoned, [], s.waitForCancel⟩
    else ⟨.answered p.answer, [], s.wait d⟩

/-- A call that is waited for to the end. -/
def hold {α : Type} (s : Script) (p : Planned α) : Reply Script (Option α) :=
  let s := if p.cancels then s.cancelIn ⟨0⟩ else s
  match p.delay with
  | none => ⟨none, [], s.cancelIn patience⟩
  | some d => ⟨some p.answer, [], s.wait d⟩

/-- The services of a script. A pull that is not in it never answers; an insert, an acknowledgement
or a recording that is not in it succeeds at once. -/
def services : Services Script where
  cancelled := cancelled
  pull _ _ _ s :=
    match s.pulls with
    | p :: pulls => { s with pulls }.race p
    | [] => s.race ⟨.ok [], false, none⟩
  insert _ _ _ _ s :=
    match s.inserts with
    | p :: inserts => { s with inserts }.race p
    | [] => s.race ⟨.ok (), false, some ⟨0⟩⟩
  acknowledge _ _ s :=
    match s.acks with
    | p :: acks => { s with acks }.hold p
    | [] => s.hold ⟨.ok (), false, some ⟨0⟩⟩
  pause d s := s.race ⟨(), false, some d⟩
  record _ s :=
    match s.records with
    | fault? :: records => (fault?, { s with records })
    | [] => (none, s)
  newKey s := (.ofNumber s.keys, { s with keys := s.keys + 1 })
  draw s := (s.jitter, s)
  now s := s.epoch + Int64.ofNat (s.clock.nanos / 1000000)

/-- A run of a relay over a script, to its end: a pull beyond the script makes it stop. -/
def run (relay : Relay) (store : Option Store) (s : Script) :
    Option RunEnd × State Script :=
  Relay.run services relay (s.pulls.length + 2) (.start relay.settings store s)

end Script

end RowRelay.Relay
