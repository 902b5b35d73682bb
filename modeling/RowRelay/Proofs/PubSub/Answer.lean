import RowRelay.Proofs.Json.Record
import RowRelay.PubSub.Message

/-!
# The answer to a pull

`messagesOf_answerText`: from every text in which the service may give its answer, the messages are
read that the entries hold, in order and with all their fields. `AnswerText` gives the texts by one
rule for each field of the three records, and the shapes follow these rules (`follows_rules`).
-/

set_option autoImplicit false

namespace RowRelay.PubSub

open Json

/-! ## What a message holds -/

def Content.rules : List (Rule Content) :=
  [⟨"data", fun m => StringText m.data, fun m => m.data = ""⟩,
    ⟨"messageId", fun m => StringText m.messageId, fun m => m.messageId = ""⟩,
    ⟨"publishTime", fun m => OptionText StringText m.publishTime, fun m => m.publishTime = none⟩,
    ⟨"attributes", fun m => MapText StringText m.attributes, fun m => m.attributes = []⟩]

/-- What is known of a message when the fields of the names `seen` were read. -/
def Content.only (m : Content) (seen : List String) : Content :=
  ⟨shown seen "data" m.data "", shown seen "messageId" m.messageId "",
    shown seen "publishTime" m.publishTime none, shown seen "attributes" m.attributes []⟩

theorem Content.follows_rules : Content.shape.Follows Content.rules Content.only where
  empty m := by simp [Content.only, Content.shape]
  fields := by
    refine .cons ⟨rfl, nofun, fun {m} seen _ h => ?_⟩
      (.cons ⟨rfl, nofun, fun {m} seen _ h => ?_⟩
        (.cons ⟨rfl, nofun, fun {m} seen _ h => ?_⟩
          (.cons ⟨rfl, nofun, fun {m} seen _ h => ?_⟩ .nil)))
    -- to fill in a field is to see one more
    · refine (reads_string h).map (fun s => { m.only seen with data := s }) ?_
      simp [Content.only, shown_other]
    · refine (reads_string h).map (fun s => { m.only seen with messageId := s }) ?_
      simp [Content.only, shown_other]
    · have htime := reads_option (fun h => ⟨reads_string h, starts_string h⟩) h
      refine htime.map (fun o => { m.only seen with publishTime := o }) ?_
      simp [Content.only, shown_other]
    · refine (reads_map reads_string h).map (fun es => { m.only seen with attributes := es }) ?_
      simp [Content.only, shown_other]
  full {m seen} h := by
    simp only [Content.rules, List.forall_mem_cons] at h
    obtain ⟨hdata, hid, htime, hattributes, -⟩ := h
    simp only [Content.only, shown_full hdata, shown_full hid, shown_full htime,
      shown_full hattributes]

/-! ## Entries -/

def Entry.rules : List (Rule Entry) :=
  [⟨"ackId", fun e => StringText e.ackId, fun _ => False⟩,
    ⟨"message", fun e => OptionText (RecordText Content.rules) e.content,
      fun e => e.content = none⟩]

/-- What is known of an entry when the fields of the names `seen` were read. -/
def Entry.only (e : Entry) (seen : List String) : Entry :=
  ⟨shown seen "ackId" e.ackId "", shown seen "message" e.content none⟩

theorem Entry.follows_rules : Entry.shape.Follows Entry.rules Entry.only where
  empty e := by simp [Entry.only, Entry.shape]
  fields := by
    refine .cons ⟨rfl, fun _ _ h => h, fun {e} seen _ h => ?_⟩
      (.cons ⟨rfl, nofun, fun {e} seen _ h => ?_⟩ .nil)
    · refine (reads_string h).map (fun s => { e.only seen with ackId := s }) ?_
      simp [Entry.only, shown_other]
    · have hcontent := reads_option
        (fun h => ⟨reads_record Content.follows_rules h, starts_record h⟩) h
      refine hcontent.map (fun o => { e.only seen with content := o }) ?_
      simp [Entry.only, shown_other]
  full {e seen} h := by
    simp only [Entry.rules, List.forall_mem_cons] at h
    obtain ⟨hid, hcontent, -⟩ := h
    simp only [Entry.only, shown_full (hid.imp_right False.elim), shown_full hcontent]

/-! ## The answer -/

def responseRules : List (Rule (List Entry)) :=
  [⟨"receivedMessages", ListText (RecordText Entry.rules), fun es => es = []⟩]

/-- The texts of an answer that holds the entries. -/
def AnswerText (entries : List Entry) (body : Bytes) : Prop :=
  FileText (RecordText responseRules) entries body

theorem response_follows_rules : responseShape.Follows responseRules
    fun es seen => shown seen "receivedMessages" es [] where
  empty es := shown_nil
  fields := by
    refine .cons ⟨rfl, nofun, ?_⟩ .nil
    intro es seen bs h
    rw [shown_self]
    exact reads_list (fun hentry => ⟨(starts_record hentry).1,
      reads_record Entry.follows_rules hentry⟩) h
  full {es seen} h := by
    simp only [responseRules, List.forall_mem_cons] at h
    exact shown_full h.1

/-- **The answer to a pull is read faithfully.** From every text of the answer come the messages
that its entries hold, in order, each with the id that acknowledges it and with all its fields. -/
theorem messagesOf_answerText {entries : List Entry} {body : Bytes} (h : AnswerText entries body) :
    messagesOf body = .ok (entries.filterMap fun e => e.content.map fun m =>
      ⟨e.ackId, m.messageId, m.data, m.publishTime, m.attributes⟩) := by
  obtain ⟨ws, value, ws', hws, hvalue, hws', rfl⟩ := h
  have hread := readAll_reads (reads_record response_follows_rules hvalue) hws hws'
  rw [messagesOf, hread]
  rfl

/-! ## A sample -/

/-- A string whose first character is escaped. -/
def sampleData : Bytes := Bytes.ofAscii "\"\\u0041==\""

/-- A value that nobody asks for, with a number beyond all doubles. -/
def sampleTrace : Bytes := Bytes.ofAscii "[1e999,\x7b\x7d]"

/-- A message without a time of publishing and without attributes. -/
def sampleContent : Bytes :=
  Bytes.ofAscii "\x7b\"messageId\":\"7\",\"data\":" ++ sampleData ++ Bytes.ofAscii "\x7d"

/-- An entry without a message. -/
def sampleDropped : Bytes := Bytes.ofAscii "\x7b\"message\":null,\"ackId\":\"a\"\x7d"

/-- An entry with a field of another name. -/
def sampleKept : Bytes :=
  Bytes.ofAscii "\x7b\"trace\":" ++ sampleTrace ++ Bytes.ofAscii ",\"message\":" ++
    sampleContent ++ Bytes.ofAscii ",\"ackId\":\"b\"\x7d"

def sampleEntries : Bytes :=
  Bytes.ofAscii "[" ++ sampleDropped ++ Bytes.ofAscii " , " ++ sampleKept ++ Bytes.ofAscii "]"

def sampleAnswer : Bytes :=
  Bytes.ofAscii "\x7b \"receivedMessages\": " ++ sampleEntries ++ Bytes.ofAscii "\x7d\n"

theorem leadText_comma : LeadText false [44] :=
  LeadText.behind_comma blanks_nil

theorem stringText_sampleData : StringText "A==" sampleData := by
  have hcode : HexQuad 'A'.toNat [48, 48, 52, 49] :=
    HexQuad.digits (i := 0) (j := 0) (k := 4) (l := 1) (.inl rfl) (.inl rfl) (.inl rfl) (.inl rfl)
  have hplain : CharText '=' [61] := .plain (by decide) (by decide) (by decide)
  exact ⟨_, .cons (.code hcode) (.cons hplain (.cons hplain .nil)), by decide +kernel⟩

theorem valueText_sampleTrace : ValueText sampleTrace := by
  have hexponent : ExponentText [101, 57, 57, 57] :=
    .digits (.inl rfl) (.inl rfl) (by decide)
  have hnumber : NumberText [49, 101, 57, 57, 57] :=
    ⟨[], [49], [], _, .inl rfl, .digits (by decide) (by decide) (by decide), .none, hexponent, rfl⟩
  have hvalue : ValueText [91, 49, 101, 57, 57, 57, 44, 123, 125, 93] :=
    .filled (.array blanks_nil) (.number hnumber)
      (.next blanks_nil (.array blanks_nil) (.empty .object blanks_nil) (.close .array blanks_nil))
  have hbytes : sampleTrace = [91, 49, 101, 57, 57, 57, 44, 123, 125, 93] := by decide +kernel
  rw [hbytes]
  exact hvalue

theorem recordText_sampleContent :
    RecordText Content.rules ⟨"A==", "7", none, []⟩ sampleContent := by
  have hid := stringText_write "7"
  refine ⟨[("messageId", Utf8.encode (writeString "7")), ("data", sampleData)], ⟨?_, ?_, ?_, ?_⟩, _,
    .cons blanks_nil (memberText_write _ _) (.cons leadText_comma (memberText_write _ _)
      (.nil blanks_nil)), by decide +kernel⟩
  · decide
  · simp [Content.rules]
  · simp [Content.rules, hid, stringText_sampleData]
  · simp [Content.rules]

theorem recordText_sampleDropped : RecordText Entry.rules ⟨"a", none⟩ sampleDropped := by
  have hid := stringText_write "a"
  refine ⟨[("message", Bytes.ofAscii "null"), ("ackId", Utf8.encode (writeString "a"))],
    ⟨?_, ?_, ?_, ?_⟩, _, .cons blanks_nil (memberText_write _ _) (.cons leadText_comma
      (memberText_write _ _) (.nil blanks_nil)), by decide +kernel⟩
  · decide
  · simp [Entry.rules]
  · simp [Entry.rules, hid, OptionText]
  · simp [Entry.rules]

theorem recordText_sampleKept :
    RecordText Entry.rules ⟨"b", some ⟨"A==", "7", none, []⟩⟩ sampleKept := by
  have hid := stringText_write "b"
  refine ⟨[("trace", sampleTrace), ("message", sampleContent),
    ("ackId", Utf8.encode (writeString "b"))], ⟨?_, ?_, ?_, ?_⟩, _, .cons blanks_nil
      (memberText_write _ _) (.cons leadText_comma (memberText_write _ _) (.cons leadText_comma
        (memberText_write _ _) (.nil blanks_nil))), by decide +kernel⟩
  · decide
  · simp [Entry.rules]
  · simp [Entry.rules, hid, OptionText, recordText_sampleContent]
  · simp [Entry.rules, valueText_sampleTrace]

theorem answerText_sample :
    AnswerText [⟨"a", none⟩, ⟨"b", some ⟨"A==", "7", none, []⟩⟩] sampleAnswer := by
  have hspaced : LeadText false [32, 44, 32] := ⟨[32], [32], by decide, by decide, rfl⟩
  have hentries : ListText (RecordText Entry.rules)
      [⟨"a", none⟩, ⟨"b", some ⟨"A==", "7", none, []⟩⟩] sampleEntries :=
    ⟨_, .cons blanks_nil recordText_sampleDropped
      (.cons hspaced recordText_sampleKept (.nil blanks_nil)), by decide +kernel⟩
  have hspace : LeadText true [32] := (by decide : Blanks [32])
  have hmember : MemberText Eq ("receivedMessages", sampleEntries) (Utf8.encode
      (writeString "receivedMessages") ++ 58 :: 32 :: sampleEntries) :=
    ⟨_, [], [32], _, stringText_write _, blanks_nil, hspace, rfl, by simp⟩
  have hresponse : RecordText responseRules [⟨"a", none⟩, ⟨"b", some ⟨"A==", "7", none, []⟩⟩]
      (Bytes.ofAscii "\x7b \"receivedMessages\": " ++ sampleEntries ++ [125]) := by
    refine ⟨[("receivedMessages", sampleEntries)], ⟨?_, ?_, ?_, ?_⟩, _,
      .cons hspace hmember (.nil blanks_nil), by decide +kernel⟩
    · decide
    · simp [responseRules]
    · simp [responseRules, hentries]
    · simp [responseRules]
  exact ⟨[], _, [10], blanks_nil, hresponse, by decide, by decide +kernel⟩

theorem messagesOf_answerText_sample :
    AnswerText [⟨"a", none⟩, ⟨"b", some ⟨"A==", "7", none, []⟩⟩] sampleAnswer ∧
      messagesOf sampleAnswer = .ok [⟨"b", "7", "A==", none, []⟩] := by
  have h := messagesOf_answerText answerText_sample
  exact ⟨answerText_sample, by simpa using h⟩

end RowRelay.PubSub
