import RowRelay.DeadLetter.Letter
import RowRelay.Proofs.Json.Record

/-!
# Reading letters back

`decode_encode`: the bytes that are stored for a letter spell this letter. They are a text of its
members, each of which fills in its field.
-/

set_option autoImplicit false

namespace RowRelay.DeadLetter

open Json (Filled reads_string reads_int stringText_write writeString writeInt)

/-- The members of a letter and their texts. -/
def members (l : DeadLetter) : List (String × Bytes) :=
  [("message_id", Utf8.encode (writeString l.messageId)),
    ("ack_id", Utf8.encode (writeString l.ackId)), ("data", Utf8.encode (writeString l.data)),
    ("reason", Utf8.encode (writeString l.reason)),
    ("failed_at", Utf8.encode (writeInt l.failedAt.toInt))]

theorem objectText_encode (l : DeadLetter) : Json.ObjectText l.members l.encode := by
  have h := Json.objectText_write [("message_id", .string l.messageId), ("ack_id", .string l.ackId),
    ("data", .string l.data), ("reason", .string l.reason),
    ("failed_at", .number (.int l.failedAt.toInt))]
  simp only [List.map_cons, List.map_nil, Json.Value.write, Json.Number.write] at h
  rwa [members, encode, toValue, Json.Value.write]

theorem filled (l : DeadLetter) : Filled shape [] shape.empty l.members l := by
  have htime := l.failedAt.toInt_le
  have hsize : l.failedAt.toInt < UInt64.size := by
    rw [Int64.toInt_maxValue] at htime
    rw [UInt64.size]
    omega
  have hstring : ∀ s : String, Json.Reads Json.readString (Utf8.encode (writeString s)) s :=
    fun s => reads_string (stringText_write s)
  have hint := reads_int l.failedAt.minValue_le_toInt l.failedAt.toInt_le
    l.failedAt.minValue_le_toInt hsize "i64"
  refine .field rfl (by decide) ((hstring l.messageId).map (mk · "" "" "" 0) rfl) ?_
  refine .field rfl (by decide) ((hstring l.ackId).map (mk l.messageId · "" "" 0) rfl) ?_
  refine .field rfl (by decide) ((hstring l.data).map (mk l.messageId l.ackId · "" 0) rfl) ?_
  refine .field rfl (by decide) ((hstring l.reason).map (mk l.messageId l.ackId l.data · 0) rfl) ?_
  refine .field rfl (by decide) (hint.map
    (fun i => mk l.messageId l.ackId l.data l.reason (Int64.ofInt i)) rfl) ?_
  rw [Int64.ofInt_toInt]
  exact .nil rfl

/-- **What is stored for a letter spells the letter.** -/
theorem decode_encode (l : DeadLetter) : decode l.encode = .ok l := by
  have h := Json.readAll_reads (l.filled.reads l.objectText_encode) Json.blanks_nil Json.blanks_nil
  rwa [List.nil_append, List.append_nil] at h

end RowRelay.DeadLetter
