import RowRelay.BigQuery.Row
import RowRelay.Proofs.Base64
import RowRelay.Proofs.Json.Values

/-!
# Reading payloads

`decodeRow_iff_yields`: from every text of a value, and from every message that carries such a text,
comes exactly what the value yields. An object yields the row that has, at every level and for every
key, what stands in its last member with that key (`Settles`); any other value is refused and named
by its kind.
-/

set_option autoImplicit false

namespace RowRelay.BigQuery

open Json PubSub

/-! ## What a payload is to yield -/

/-- What is to come of a payload that spells the value. -/
inductive Yields : Value → Except DecodeError Row → Prop
  | row {ms : List (String × Value)} {row : Row} : Settles (.object ms) (.object row) →
      Yields (.object ms) (.ok row)
  | refused {v : Value} : (∀ ms, v ≠ .object ms) → Yields v (.error (.notAnObject v.kind))

/-- The data of a message is the padded encoding of the bytes, with blanks around it. -/
def Carries (m : Message) (bs : Bytes) : Prop :=
  ∃ ws ws', (∀ c ∈ ws, Text.isBlank c = true) ∧ (∀ c ∈ ws', Text.isBlank c = true) ∧
    m.data.toList = ws ++ (Base64.text bs ++ ws')

theorem Yields.unique {v : Value} {result result' : Except DecodeError Row}
    (h : Yields v result) (h' : Yields v result') : result = result' := by
  cases h with
  | @row ms row hrow =>
    cases h' with
    | row hrow' =>
      have heq := (settles_iff.1 hrow).trans (settles_iff.1 hrow').symm
      cases heq
      rfl
    | refused hnone => exact absurd rfl (hnone ms)
  | refused hnone =>
    cases h' with
    | @row ms _ _ => exact absurd rfl (hnone ms)
    | refused _ => rfl

/-! ## What it does yield -/

theorem parseRow_yields {v : Value} {bs : Bytes} (hfits : v.Fits maxDepth)
    (h : FileText TextOf v bs) : Yields v (parseRow bs) := by
  have hread := parse_text hfits h
  cases v with
  | object ms =>
    rw [Value.settle] at hread
    rw [parseRow, hread]
    exact .row (settles_settle (.object ms))
  | null | bool | number | string | array =>
    rw [Value.settle] at hread
    rw [parseRow, hread]
    exact .refused nofun

theorem decodeRow_of_carries {m : Message} {bs : Bytes} (h : Carries m bs) :
    decodeRow m = parseRow bs := by
  obtain ⟨ws, ws', hws, hws', hdata⟩ := h
  have hbytes : decodePayload m.data = .ok bs := by
    rw [decodePayload, Base64.decodeText_text hws hws' hdata]
    rfl
  rw [decodeRow, hbytes]
  rfl

/-- **A payload is read as the value that was published.** From every text of the value comes what
the value yields and nothing else, and so it does from every message that carries the text. -/
theorem decodeRow_iff_yields {v : Value} {bs : Bytes} (hfits : v.Fits 127)
    (h : FileText TextOf v bs) (result : Except DecodeError Row) :
    (parseRow bs = result ↔ Yields v result) ∧
      ∀ m : Message, Carries m bs → (decodeRow m = result ↔ Yields v result) := by
  have hyields := parseRow_yields hfits h
  have hiff : parseRow bs = result ↔ Yields v result :=
    ⟨fun heq => heq ▸ hyields, fun hresult => hyields.unique hresult⟩
  refine ⟨hiff, fun m hm => ?_⟩
  rw [decodeRow_of_carries hm]
  exact hiff

/-! ## A sample -/

/-- A key that comes twice, once with an escape in it. -/
def samplePayload : Bytes :=
  Bytes.ofAscii "\x7b \"\\u0061\" : -1,\"a\":[ null ]\x7d\n"

def samplePublished : Value :=
  .object [("a", .number (.int (-1))), ("a", .array [.null])]

/-- The payload with an em space before it and a line end behind it. -/
def sampleMessage : Message :=
  ⟨"", "", "\u2003eyAiXHUwMDYxIiA6IC0xLCJhIjpbIG51bGwgXX0K\n", none, []⟩

theorem stringText_escapedKey : StringText "a" (Bytes.ofAscii "\"\\u0061\"") := by
  have hcode : HexQuad 'a'.toNat [48, 48, 54, 49] :=
    HexQuad.digits (i := 0) (j := 0) (k := 6) (l := 1) (.inl rfl) (.inl rfl) (.inl rfl) (.inl rfl)
  exact ⟨_, .cons (.code hcode) .nil, by decide +kernel⟩

theorem fileText_samplePayload : FileText TextOf samplePublished samplePayload := by
  have hspace : Blanks [32] := by decide
  have hlead : LeadText true [32] := hspace
  have hminus : Bytes.ofAscii "-1" = Utf8.encode (writeInt (-1)) := by decide +kernel
  have harray : TextOf (.array [.null]) (Bytes.ofAscii "[ null ]") :=
    ⟨[Bytes.ofAscii "null"], ⟨rfl, trivial⟩, _, .cons hlead rfl (.nil hspace), by decide +kernel⟩
  have hfirst : MemberText Eq ("a", Bytes.ofAscii "-1")
      (Bytes.ofAscii "\"\\u0061\" : -1") :=
    ⟨_, [32], [32], _, stringText_escapedKey, hspace, hspace, rfl, by decide +kernel⟩
  have hobject : TextOf samplePublished
      (Bytes.ofAscii "\x7b \"\\u0061\" : -1,\"a\":[ null ]\x7d") :=
    ⟨[("a", Bytes.ofAscii "-1"), ("a", Bytes.ofAscii "[ null ]")],
      ⟨rfl, hminus, rfl, harray, trivial⟩, _,
      .cons hlead hfirst (.cons (LeadText.behind_comma blanks_nil) (memberText_write _ _)
        (.nil blanks_nil)), by decide +kernel⟩
  exact ⟨[], _, [10], blanks_nil, hobject, by decide, by decide +kernel⟩

theorem carries_sampleMessage : Carries sampleMessage samplePayload :=
  ⟨['\u2003'], ['\n'], List.forall_mem_singleton.2 (by decide),
    List.forall_mem_singleton.2 (by decide), by decide +kernel⟩

theorem yields_samplePublished : Yields samplePublished (.ok [("a", .array [.null])]) :=
  .row (settles_iff.2 rfl)

theorem decodeRow_iff_yields_sample :
    FileText TextOf samplePublished samplePayload ∧ Carries sampleMessage samplePayload ∧
      parseRow samplePayload = .ok [("a", .array [.null])] ∧
      decodeRow sampleMessage = .ok [("a", .array [.null])] := by
  have hfits : samplePublished.Fits 127 :=
    ⟨⟨by decide, by decide⟩, ⟨trivial, trivial⟩, trivial⟩
  obtain ⟨hparse, hdecode⟩ := decodeRow_iff_yields hfits fileText_samplePayload
    (.ok [("a", .array [.null])])
  exact ⟨fileText_samplePayload, carries_sampleMessage, hparse.2 yields_samplePublished,
    (hdecode _ carries_sampleMessage).2 yields_samplePublished⟩

end RowRelay.BigQuery
