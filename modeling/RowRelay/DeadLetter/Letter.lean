import RowRelay.Json.Record
import RowRelay.PubSub.Message

/-!
# Dead letters

A message that the relay gave up on, with the reason and the time, and the form in which it is
stored.
-/

set_option autoImplicit false

namespace RowRelay

open Json (Value Shape)

structure DeadLetter where
  messageId : String
  ackId : String
  /-- The payload as pulled, in transport form. -/
  data : String
  reason : String
  /-- Milliseconds since 1970. -/
  failedAt : Int64
  deriving DecidableEq, Repr

namespace DeadLetter

def ofMessage (m : PubSub.Message) (reason : String) (now : Int64) : DeadLetter :=
  ⟨m.messageId, m.ackId, m.data, reason, now⟩

def toValue (letter : DeadLetter) : Value :=
  .object [("message_id", .string letter.messageId), ("ack_id", .string letter.ackId),
    ("data", .string letter.data), ("reason", .string letter.reason),
    ("failed_at", .number (.int letter.failedAt.toInt))]

/-- The bytes that are stored. -/
def encode (letter : DeadLetter) : Bytes :=
  Utf8.encode letter.toValue.write

def shape : Shape DeadLetter where
  name := "DeadLetter"
  empty := ⟨"", "", "", "", 0⟩
  fields := [
    ⟨"message_id", .required, fun l n c => do
      let (x, c) ← Json.readString n c
      return ({ l with messageId := x }, c)⟩,
    ⟨"ack_id", .required, fun l n c => do
      let (x, c) ← Json.readString n c
      return ({ l with ackId := x }, c)⟩,
    ⟨"data", .required, fun l n c => do
      let (x, c) ← Json.readString n c
      return ({ l with data := x }, c)⟩,
    ⟨"reason", .required, fun l n c => do
      let (x, c) ← Json.readString n c
      return ({ l with reason := x }, c)⟩,
    ⟨"failed_at", .required, fun l n c => do
      let (x, c) ← Json.readInt Int64.minValue.toInt Int64.maxValue.toInt "i64" n c
      return ({ l with failedAt := Int64.ofInt x }, c)⟩]

/-- The letter that stored bytes spell. -/
def decode (bs : Bytes) : Except Json.Fault DeadLetter :=
  Json.readAll shape.read bs

end DeadLetter

end RowRelay
