import RowRelay.BigQuery.Row
import RowRelay.Proofs.Base64
import RowRelay.Proofs.Except

/-!
# Bytes have one form in Base64

`decode_eq_ok_iff`: what is read as bytes is what is written for them, and nothing else. The reader
takes symbols and pads apart (`lastGroup_spells`), and whatever a group is read as is written with
the symbols and pads of the group (`encode_group`): it refuses a group that is not filled up, and a
last symbol with bits that no byte holds.

`decodePayload_canonical` says the same of payloads, which are read without the blanks around them.
-/

set_option autoImplicit false

namespace RowRelay.Base64

/-! ## Values -/

theorem symbol_of_value? {b : UInt8} {v : Nat} (h : value? b = some v) :
    v < 64 ∧ symbol v = b := by
  have hall : ∀ n < 256, ∀ v ∈ value? n.toUInt8, v < 64 ∧ symbol v = n.toUInt8 := by
    decide +kernel
  have hb : b.toNat.toUInt8 = b := UInt8.ofNat_toNat
  have hv := hall b.toNat b.toNat_lt v (by rw [hb]; exact h)
  rwa [hb] at hv

theorem symbol_of_value {offset : Nat} {b : UInt8} {v : Nat} (h : value offset b = .ok v) :
    v < 64 ∧ symbol v = b := by
  unfold value at h
  split at h
  · next hv =>
    cases h
    exact symbol_of_value? hv
  · cases h

theorem values_of_bytes {u v w x : Nat} (hu : u < 64) (hv : v < 64) (hw : w < 64) (hx : x < 64) :
    (u * 4 + v / 16).toUInt8.toNat / 4 = u ∧
      (u * 4 + v / 16).toUInt8.toNat % 4 * 16 + (v % 16 * 16 + w / 4).toUInt8.toNat / 16 = v ∧
      (v % 16 * 16 + w / 4).toUInt8.toNat % 16 * 4 + (w % 4 * 64 + x).toUInt8.toNat / 64 = w ∧
      (w % 4 * 64 + x).toUInt8.toNat % 64 = x := by
  rw [Utf8.toNat_toUInt8 (show u * 4 + v / 16 < 256 by omega),
    Utf8.toNat_toUInt8 (show v % 16 * 16 + w / 4 < 256 by omega),
    Utf8.toNat_toUInt8 (show w % 4 * 64 + x < 256 by omega)]
  omega

/-! ## The last group -/

theorem lastGroup_pads {start first : Nat} {symbols : List (UInt8 × Nat)} {g : Group} {bs : Bytes} :
    ∀ {i pads : Nat}, lastGroup start i ⟨symbols, some first, pads⟩ bs = .ok g →
      bs = List.replicate bs.length pad ∧ g.symbols = symbols ∧ g.pads = pads + bs.length := by
  induction bs with
  | nil =>
    intro i pads h
    cases h
    exact ⟨rfl, rfl, rfl⟩
  | cons b bs ih =>
    intro i pads h
    unfold lastGroup at h
    split at h
    · next hb =>
      split at h
      · cases h
      · obtain ⟨hbs, hsymbols, hpads⟩ := ih h
        refine ⟨?_, hsymbols, ?_⟩
        · rw [hb, List.length_cons, List.replicate_succ, ← hbs]
        · change g.pads = pads + 1 + bs.length at hpads
          rw [hpads, List.length_cons]
          omega
    · cases h

/-- The last group is read as symbols and pads, with two symbols at least before a pad. -/
theorem lastGroup_spells {start : Nat} {g : Group} {bs : Bytes} :
    ∀ {i : Nat} {symbols : List (UInt8 × Nat)},
      lastGroup start i ⟨symbols, none, 0⟩ bs = .ok g → ∃ vs : List Nat, (∀ v ∈ vs, v < 64) ∧
        g.symbols = symbols ++ vs.map (fun v => (symbol v, v)) ∧
        bs = vs.map symbol ++ List.replicate g.pads pad ∧ (g.pads = 0 ∨ 2 ≤ i + vs.length) := by
  induction bs with
  | nil =>
    intro i symbols h
    cases h
    exact ⟨[], List.forall_mem_nil _, (List.append_nil _).symm, rfl, .inl rfl⟩
  | cons b bs ih =>
    intro i symbols h
    unfold lastGroup at h
    split at h
    · next hb =>
      split at h
      · cases h
      · next hi =>
        obtain ⟨hbs, hsymbols, hpads⟩ := lastGroup_pads h
        refine ⟨[], List.forall_mem_nil _, by rw [hsymbols]; simp, ?_, .inr (Nat.le_of_not_lt hi)⟩
        rw [hpads, Nat.zero_add, Nat.add_comm, List.replicate_succ, ← hbs, hb]
        rfl
    · next hb =>
      dsimp only at h
      split at h
      · cases h
      · next v hv =>
        obtain ⟨hlt, hsymbol⟩ := symbol_of_value? hv
        obtain ⟨vs, hvs, hsymbols, hbs, hpads⟩ := ih h
        refine ⟨v :: vs, List.forall_mem_cons.2 ⟨hlt, hvs⟩, ?_, ?_, ?_⟩
        · rw [hsymbols, List.map_cons, hsymbol, List.append_assoc]
          rfl
        · rw [List.map_cons, List.cons_append, hsymbol, ← hbs]
        · refine hpads.imp_right fun hlen => ?_
          rw [List.length_cons]
          omega

/-- What a group is read as is written with the symbols and pads of the group. -/
theorem encode_group {start : Nat} {g : Group} {vs : List Nat} {out : Bytes}
    (hvs : ∀ v ∈ vs, v < 64) (hsymbols : g.symbols = vs.map fun v => (symbol v, v))
    (hpads : g.pads = 0 ∨ 2 ≤ vs.length) (hlen : vs.length + g.pads ≤ 4)
    (h : g.bytes start = .ok out) : encode out = vs.map symbol ++ List.replicate g.pads pad := by
  unfold Group.bytes at h
  rw [hsymbols, List.length_map] at h
  split at h
  · cases h
  · next hfull =>
    match vs with
    | [] =>
      cases h
      rw [show g.pads = 0 by simpa using hpads]
      rfl
    | [_] => cases h
    | [u, v] =>
      change (if _ then _ else _) = _ at h
      split at h
      · cases h
      · next hv =>
        cases h
        simp only [List.forall_mem_cons] at hvs
        simp only [List.length_cons, List.length_nil] at hfull hlen
        obtain ⟨ha, ha', -, -⟩ := values_of_bytes hvs.1 hvs.2.1 (show 0 < 64 by omega)
          (show 0 < 64 by omega)
        rw [show v % 16 * 16 + 0 / 4 = 0 by omega] at ha'
        rw [encode, ha, show g.pads = 2 by omega]
        exact congrArg (symbol u :: symbol · :: [pad, pad]) ha'
    | [u, v, w] =>
      change (if _ then _ else _) = _ at h
      split at h
      · cases h
      · next hw =>
        cases h
        simp only [List.forall_mem_cons] at hvs
        simp only [List.length_cons, List.length_nil] at hfull hlen
        obtain ⟨ha, ha', hb, -⟩ := values_of_bytes hvs.1 hvs.2.1 hvs.2.2.1 (show 0 < 64 by omega)
        rw [show w % 4 * 64 + 0 = 0 by omega] at hb
        rw [encode, ha, ha', show g.pads = 1 by omega]
        exact congrArg (symbol u :: symbol v :: symbol · :: [pad]) hb
    | [u, v, w, x] =>
      cases h
      simp only [List.forall_mem_cons] at hvs
      simp only [List.length_cons, List.length_nil] at hlen
      obtain ⟨ha, ha', hb, hc⟩ := values_of_bytes hvs.1 hvs.2.1 hvs.2.2.1 hvs.2.2.2.1
      rw [encode, encode, ha, ha', hb, hc, show g.pads = 0 by omega]
      rfl
    | _ :: _ :: _ :: _ :: _ :: _ =>
      simp only [List.length_cons] at hlen
      omega

/-! ## All groups -/

theorem encode_of_decodeFrom {start : Nat} {bs out : Bytes} (h : decodeFrom start bs = .ok out) :
    encode out = bs := by
  induction start, bs using decodeFrom.induct generalizing out with
  | case1 start a b c d e rest ih =>
    rw [decodeFrom] at h
    obtain ⟨u, hu, h⟩ := ok_of_bind h
    obtain ⟨v, hv, h⟩ := ok_of_bind h
    obtain ⟨w, hw, h⟩ := ok_of_bind h
    obtain ⟨x, hx, h⟩ := ok_of_bind h
    obtain ⟨bytes, hbytes, h⟩ := ok_of_bind h
    cases h
    obtain ⟨hu', rfl⟩ := symbol_of_value hu
    obtain ⟨hv', rfl⟩ := symbol_of_value hv
    obtain ⟨hw', rfl⟩ := symbol_of_value hw
    obtain ⟨hx', rfl⟩ := symbol_of_value hx
    obtain ⟨ha, ha', hb, hc⟩ := values_of_bytes hu' hv' hw' hx'
    rw [encode, ha, ha', hb, hc, ih hbytes]
  | case2 start last hshort =>
    have hlen : last.length ≤ 4 := by
      rcases last with _ | ⟨a, _ | ⟨b, _ | ⟨c, _ | ⟨d, _ | ⟨e, rest⟩⟩⟩⟩⟩
      case cons.cons.cons.cons.cons => exact absurd rfl (hshort a b c d e rest)
      all_goals simp
    rw [decodeFrom] at h
    · obtain ⟨g, hg, h⟩ := ok_of_bind h
      obtain ⟨vs, hvs, hsymbols, hlast, hpads⟩ := lastGroup_spells hg
      rw [hlast] at hlen ⊢
      rw [List.length_append, List.length_map, List.length_replicate] at hlen
      rw [Nat.zero_add] at hpads
      exact encode_group hvs hsymbols hpads hlen h
    · exact hshort

/-- **Bytes are read from what is written for them**, and from nothing else. -/
theorem decode_eq_ok_iff {bs out : Bytes} : decode bs = .ok out ↔ bs = encode out := by
  refine ⟨fun h => ?_, fun h => h ▸ decode_encode out⟩
  unfold decode at h
  split at h
  · split at h
    · cases h
    · exact (encode_of_decodeFrom h).symm
  · next hnone =>
    cases h
    exact List.getLast?_eq_none_iff.1 hnone

/-- A text is read as bytes exactly if it is the encoding of these, but for blanks around it. -/
theorem decodeText_eq_ok_iff {data : String} {out : Bytes} :
    decodeText data = .ok out ↔ Text.trim data.toList = text out := by
  rw [decodeText, decode_eq_ok_iff, ← encode_text]
  exact ⟨fun h => Utf8.encode_injective h, fun h => congrArg Utf8.encode h⟩

end RowRelay.Base64

namespace RowRelay.BigQuery

theorem decodePayload_eq_ok_iff {data : String} {bs : Bytes} :
    decodePayload data = .ok bs ↔ Text.trim data.toList = Base64.text bs := by
  rw [← Base64.decodeText_eq_ok_iff, decodePayload]
  cases Base64.decodeText data with
  | error cause => exact ⟨nofun, nofun⟩
  | ok out => exact ⟨fun h => congrArg Except.ok (Except.ok.inj h), fun h => h ▸ rfl⟩

/-- **A payload is accepted in one form only**: its bytes in Base64, with all pads, and blanks
around them. So two payloads of the same bytes differ in their blanks alone, and what is of no such
form is refused as no Base64. -/
theorem decodePayload_canonical (data : String) :
    (∀ bs, decodePayload data = .ok bs ↔ Text.trim data.toList = Base64.text bs) ∧
      (∀ other bs, decodePayload data = .ok bs ∧ decodePayload other = .ok bs →
        Text.trim data.toList = Text.trim other.toList) ∧
      ((∃ cause, decodePayload data = .error (.base64 cause)) ↔
        ∀ bs, Text.trim data.toList ≠ Base64.text bs) := by
  refine ⟨fun bs => decodePayload_eq_ok_iff, fun other bs h => ?_, fun h bs hbs => ?_, fun h => ?_⟩
  · have hdata := decodePayload_eq_ok_iff.1 h.1
    have hother := decodePayload_eq_ok_iff.1 h.2
    rw [hdata, hother]
  · obtain ⟨cause, h⟩ := h
    rw [decodePayload_eq_ok_iff.2 hbs] at h
    cases h
  · cases hread : Base64.decodeText data with
    | error cause => exact ⟨cause, by rw [decodePayload, hread]; rfl⟩
    | ok bs => exact absurd (Base64.decodeText_eq_ok_iff.1 hread) (h bs)

/-- The bits that the last symbol has over must be zero, and the pads must all be there. -/
example : decodePayload "\u2003Zm9vYmE=\n" = .ok (Bytes.ofAscii "fooba") ∧
    decodePayload "Zm9vYmF=" = .error (.base64 (.invalidLastSymbol 70 6)) ∧
    decodePayload "Zm9vYmE" = .error (.base64 .invalidPadding) :=
  ⟨rfl, rfl, rfl⟩

end RowRelay.BigQuery
