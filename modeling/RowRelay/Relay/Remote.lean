import RowRelay.BigQuery.Client
import RowRelay.PubSub.Client
import RowRelay.Relay.Services

/-!
# Services through a network

The services of a relay whose subscription and table are reached through a network. Calls that are
given up when the relay is asked to stop go through one network, acknowledgements, which are not,
through another that waits for the answer. Letters are recorded on the disk of the host.
-/

set_option autoImplicit false

namespace RowRelay.Relay

variable {σ : Type}

/-- What the services need from the world they run in. -/
structure Host (σ : Type) where
  network : Http.Network σ
  /-- The network for calls that are waited for to the end. -/
  patient : Http.Network σ
  cancelled : σ → Bool
  /-- What the disk makes of a letter. -/
  record : DeadLetter → σ → Option Store.RecordFault × σ
  newKey : σ → BigQuery.IdempotencyKey × σ
  now : σ → Int64

/-- The services that a host gives, with the messages at one endpoint and the rows going to
another. -/
def Host.services (host : Host σ) (queue : Http.Endpoint) (sink : BigQuery.Client) :
    Services σ where
  cancelled := host.cancelled
  pull subscription most immediately world :=
    PubSub.pull host.network queue subscription most immediately world
  insert table row key retries world := sink.insert host.network table row key retries world
  acknowledge subscription ackIds world :=
    let reply := PubSub.acknowledge host.patient queue subscription ackIds world
    let answer := match reply.answer with
      | .answered answer => some answer
      | .abandoned => none
    ⟨answer, reply.lines, reply.world⟩
  pause := host.network.pause
  record := host.record
  newKey := host.newKey
  draw := host.network.draw
  now := host.now

end RowRelay.Relay
