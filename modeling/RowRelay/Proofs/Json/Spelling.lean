import Mathlib.Tactic.IntervalCases
import RowRelay.Proofs.Json.Grammar
import RowRelay.Proofs.Text.Utf8

/-!
# Reading words and strings

`stringBody_text`: every spelling of a string is read as the string. Character by character, the
reader takes the bytes that stand for themselves (`stringBytes_plain`) or what an escape stands for
(`escape_text`), and the bytes together spell the string in UTF-8.
-/

set_option autoImplicit false

namespace RowRelay.Json

open Utf8 (encode encodeChar toNat_toUInt8)

/-! ## Words -/

theorem word_text (bs rest : Bytes) :
    ∀ p, ∃ q, word bs ⟨bs ++ rest, p⟩ = .ok ⟨rest, q⟩ := by
  induction bs with
  | nil => exact fun p => ⟨p, rfl⟩
  | cons b bs ih =>
    intro p
    obtain ⟨q, hq⟩ := ih (p.step b)
    refine ⟨q, ?_⟩
    simp only [word, Cursor.next?, List.cons_append, if_true, hq]

/-! ## Bytes that stand for themselves -/

/-- The byte stands for itself in a string. -/
def IsPlain (b : UInt8) : Prop :=
  b ≠ 34 ∧ b ≠ 92 ∧ ¬ b < 32

theorem isPlain_toUInt8 {n : Nat} (h : n < 256) (hlow : 32 ≤ n) (hquote : n ≠ 34)
    (hbackslash : n ≠ 92) : IsPlain n.toUInt8 := by
  have hn := toNat_toUInt8 h
  refine ⟨fun heq => hquote ?_, fun heq => hbackslash ?_, fun hlt => ?_⟩
  · rw [← hn, heq]
    rfl
  · rw [← hn, heq]
    rfl
  · rw [UInt8.lt_iff_toNat_lt, hn] at hlt
    exact Nat.not_lt.2 hlow hlt

theorem isPlain_high {n : Nat} (h : n < 256) (hhigh : 128 ≤ n) : IsPlain n.toUInt8 :=
  isPlain_toUInt8 h (by omega) (by omega) (by omega)

/-- Past the control characters all bytes of a character but the quote and the backslash stand for
themselves. -/
theorem plain_encodeChar {c : Char} (hlow : 32 ≤ c.toNat) (hquote : c ≠ '"')
    (hbackslash : c ≠ '\\') : ∀ b ∈ encodeChar c, IsPlain b := by
  have hquote' : c.toNat ≠ 34 := fun h => hquote (Char.toNat_inj.1 h)
  have hbackslash' : c.toNat ≠ 92 := fun h => hbackslash (Char.toNat_inj.1 h)
  have hmax : c.toNat < 0x110000 := by
    have hvalid : c.toNat < 0xD800 ∨ 0xDFFF < c.toNat ∧ c.toNat < 0x110000 := c.valid
    omega
  unfold encodeChar
  generalize c.toNat = n at hlow hquote' hbackslash' hmax
  dsimp only
  intro b hb
  split at hb
  · rw [List.mem_singleton] at hb
    subst hb
    exact isPlain_toUInt8 (by omega) hlow hquote' hbackslash'
  · split at hb
    · simp only [List.mem_cons, List.not_mem_nil, or_false] at hb
      rcases hb with rfl | rfl
      · exact isPlain_high (by omega) (by omega)
      · exact isPlain_high (by omega) (by omega)
    · split at hb
      · simp only [List.mem_cons, List.not_mem_nil, or_false] at hb
        rcases hb with rfl | rfl | rfl
        · exact isPlain_high (by omega) (by omega)
        · exact isPlain_high (by omega) (by omega)
        · exact isPlain_high (by omega) (by omega)
      · simp only [List.mem_cons, List.not_mem_nil, or_false] at hb
        rcases hb with rfl | rfl | rfl | rfl
        · exact isPlain_high (by omega) (by omega)
        · exact isPlain_high (by omega) (by omega)
        · exact isPlain_high (by omega) (by omega)
        · exact isPlain_high (by omega) (by omega)

theorem stringBytes_plain {bs : Bytes} (h : ∀ b ∈ bs, IsPlain b) (n : Nat) (rest : Bytes) :
    ∀ (p : Position) (seen : Bytes), ∃ q,
      stringBytes (n + bs.length) ⟨bs ++ rest, p⟩ seen =
        stringBytes n ⟨rest, q⟩ (bs.reverse ++ seen) := by
  induction bs with
  | nil => exact fun p seen => ⟨p, rfl⟩
  | cons b bs ih =>
    intro p seen
    obtain ⟨hquote, hbackslash, hlow⟩ := h b List.mem_cons_self
    obtain ⟨q, hq⟩ := ih (fun x hx => h x (List.mem_cons_of_mem _ hx)) (p.step b) (b :: seen)
    refine ⟨q, ?_⟩
    rw [List.length_cons, ← Nat.add_assoc, stringBytes]
    simp only [Cursor.next?, List.cons_append, hquote, hbackslash, hlow, if_false, hq,
      List.reverse_cons, List.append_assoc, List.nil_append]

/-! ## Escapes -/

theorem hexValue?_digit {b : UInt8} {n : Nat} (h : HexDigit b n) : hexValue? b = some n := by
  have hn : n < 16 := by
    rcases h with h | h <;> exact (List.getElem?_eq_some_iff.1 h).choose
  rcases h with h | h <;> interval_cases n <;> cases h <;> rfl

theorem hexQuad_text {n : Nat} {ds : Bytes} (h : HexQuad n ds) (rest : Bytes) (p : Position) :
    ∃ q, hexQuad ⟨ds ++ rest, p⟩ = .ok (n, ⟨rest, q⟩) := by
  cases h with
  | @digits a b c d _ _ _ _ ha hb hc hd =>
    refine ⟨(((p.step a).step b).step c).step d, ?_⟩
    simp [hexQuad, hexValue?_digit ha, hexValue?_digit hb, hexValue?_digit hc, hexValue?_digit hd]

theorem codePoint_code {c : Char} {ds : Bytes} (h : HexQuad c.toNat ds) (rest : Bytes)
    (p : Position) : ∃ q, codePoint ⟨ds ++ rest, p⟩ = .ok (c, ⟨rest, q⟩) := by
  obtain ⟨q, hq⟩ := hexQuad_text h rest p
  have hvalid : c.toNat < 0xD800 ∨ 0xDFFF < c.toNat ∧ c.toNat < 0x110000 := c.valid
  have hleading : isLeading c.toNat = false := by
    simp only [isLeading, Bool.and_eq_false_iff, decide_eq_false_iff_not]
    omega
  have htrailing : isTrailing c.toNat = false := by
    simp only [isTrailing, Bool.and_eq_false_iff, decide_eq_false_iff_not]
    omega
  refine ⟨q, ?_⟩
  simp [codePoint, hq, hleading, htrailing, bind, Except.bind, pure, Except.pure]

theorem codePoint_pair {c : Char} {high low : Nat} {ds es : Bytes} (hds : HexQuad high ds)
    (hes : HexQuad low es) (hhigh : 0xD800 ≤ high ∧ high < 0xDC00)
    (hlow : 0xDC00 ≤ low ∧ low < 0xE000)
    (hc : c.toNat = 0x10000 + (high - 0xD800) * 0x400 + (low - 0xDC00)) (rest : Bytes)
    (p : Position) :
    ∃ q, codePoint ⟨ds ++ 92 :: 117 :: (es ++ rest), p⟩ = .ok (c, ⟨rest, q⟩) := by
  obtain ⟨q₁, hq₁⟩ := hexQuad_text hds (92 :: 117 :: (es ++ rest)) p
  obtain ⟨q₂, hq₂⟩ := hexQuad_text hes rest ((q₁.step 92).step 117)
  have hleading : isLeading high = true ∧ isTrailing high = false := by
    simp only [isLeading, isTrailing, Bool.and_eq_true, Bool.and_eq_false_iff, decide_eq_true_eq,
      decide_eq_false_iff_not]
    omega
  have htrailing : isTrailing low = true := by
    simp only [isTrailing, Bool.and_eq_true, decide_eq_true_eq]
    omega
  have hchar : Char.ofNat ((high - 0xD800) * 0x400 + (low - 0xDC00) + 0x10000) = c := by
    rw [show (high - 0xD800) * 0x400 + (low - 0xDC00) + 0x10000 = c.toNat by omega,
      Char.ofNat_toNat]
  refine ⟨q₂, ?_⟩
  simp [codePoint, surrogateMark, Cursor.next?, hq₁, hq₂, hleading.1, hleading.2, htrailing, hchar,
    bind, Except.bind, pure, Except.pure]

theorem shortEscape?_mem {c : Char} {b : UInt8} (h : (c, b) ∈ shortEscapes) :
    ∃ x, shortEscape? b = some x ∧ encodeChar c = [x] := by
  simp only [shortEscapes, List.mem_cons, Prod.mk.injEq, List.not_mem_nil, or_false] at h
  rcases h with ⟨rfl, rfl⟩ | ⟨rfl, rfl⟩ | ⟨rfl, rfl⟩ | ⟨rfl, rfl⟩ | ⟨rfl, rfl⟩ | ⟨rfl, rfl⟩ |
    ⟨rfl, rfl⟩ | ⟨rfl, rfl⟩ <;> exact ⟨_, rfl, rfl⟩

/-- Behind the backslash of an escape stand the bytes of its character. -/
def Escaped (c : Char) (bs : Bytes) : Prop :=
  ∀ rest p, ∃ q, escape ⟨bs ++ rest, p⟩ = .ok (encodeChar c, ⟨rest, q⟩)

theorem escaped_short {c : Char} {b : UInt8} (h : (c, b) ∈ shortEscapes) : Escaped c [b] := by
  intro rest p
  obtain ⟨x, hx, hc⟩ := shortEscape?_mem h
  refine ⟨p.step b, ?_⟩
  simp [escape, Cursor.next?, hx, hc]

theorem escaped_codePoint {c : Char} {bs : Bytes}
    (h : ∀ rest p, ∃ q, codePoint ⟨bs ++ rest, p⟩ = .ok (c, ⟨rest, q⟩)) :
    Escaped c (117 :: bs) := by
  intro rest p
  obtain ⟨q, hq⟩ := h rest (p.step 117)
  refine ⟨q, ?_⟩
  have hletter : shortEscape? 117 = none := rfl
  simp [escape, Cursor.next?, hletter, hq, bind, Except.bind, pure, Except.pure]

/-- What spells a character stands for its own bytes, or is an escape for them. -/
theorem CharText.plain_or_escaped {c : Char} {bs : Bytes} (h : CharText c bs) :
    (bs = encodeChar c ∧ ∀ b ∈ bs, IsPlain b) ∨ ∃ tail, bs = 92 :: tail ∧ Escaped c tail := by
  cases h with
  | plain hlow hquote hbackslash => exact .inl ⟨rfl, plain_encodeChar hlow hquote hbackslash⟩
  | short hmem => exact .inr ⟨_, rfl, escaped_short hmem⟩
  | code hds => exact .inr ⟨_, rfl, escaped_codePoint (codePoint_code hds)⟩
  | @pair high low ds es hds hes hhigh hhigh' hlow hlow' hc =>
    refine .inr ⟨_, rfl, escaped_codePoint fun rest p => ?_⟩
    obtain ⟨q, hq⟩ := codePoint_pair hds hes ⟨hhigh, hhigh'⟩ ⟨hlow, hlow'⟩ hc rest p
    refine ⟨q, ?_⟩
    rw [← hq]
    simp

/-! ## Strings -/

/-- What spells a character is read as its bytes, for no more calls than it has bytes. -/
theorem stringBytes_text {c : Char} {bs : Bytes} (h : CharText c bs) {n : Nat}
    (hn : bs.length ≤ n) (rest : Bytes) (p : Position) (seen : Bytes) :
    ∃ m q, n ≤ m + bs.length ∧ stringBytes n ⟨bs ++ rest, p⟩ seen =
      stringBytes m ⟨rest, q⟩ ((encodeChar c).reverse ++ seen) := by
  rcases h.plain_or_escaped with ⟨rfl, hplain⟩ | ⟨tail, rfl, hescaped⟩
  · obtain ⟨q, hq⟩ := stringBytes_plain hplain (n - (encodeChar c).length) rest p seen
    rw [Nat.sub_add_cancel hn] at hq
    exact ⟨_, q, by omega, hq⟩
  · rw [List.length_cons] at hn ⊢
    obtain ⟨m, rfl⟩ : ∃ m, n = m + 1 := ⟨n - 1, by omega⟩
    obtain ⟨q, hq⟩ := hescaped rest (p.step 92)
    refine ⟨m, q, by omega, ?_⟩
    simp only [List.cons_append, stringBytes, Cursor.next?, hq]
    rfl

theorem stringBytes_chars {cs : List Char} {body : Bytes} (h : CharsText cs body) (rest : Bytes) :
    ∀ {n : Nat} (p : Position) (seen : Bytes), body.length < n →
      ∃ q, stringBytes n ⟨body ++ 34 :: rest, p⟩ seen =
        .ok (seen.reverse ++ encode cs, ⟨rest, q⟩) := by
  induction h with
  | nil =>
    intro n p seen hn
    obtain ⟨m, rfl⟩ : ∃ m, n = m + 1 := ⟨n - 1, by omega⟩
    have hnil : encode [] = [] := rfl
    refine ⟨p.step 34, ?_⟩
    rw [hnil, List.append_nil]
    rfl
  | @cons c cs bs body hchar _ ih =>
    intro n p seen hn
    rw [List.length_append] at hn
    obtain ⟨m, q, hm, hq⟩ := stringBytes_text hchar (show bs.length ≤ n by omega)
      (body ++ 34 :: rest) p seen
    obtain ⟨q', hq'⟩ := ih q ((encodeChar c).reverse ++ seen) (show body.length < m by omega)
    refine ⟨q', ?_⟩
    rw [List.append_assoc, hq, hq']
    simp [encode]

/-- **Every spelling of a string is read as the string.** -/
theorem stringBody_text {s : String} {body : Bytes} (h : CharsText s.toList body) {n : Nat}
    (hn : body.length < n) (rest : Bytes) (p : Position) :
    ∃ q, stringBody n ⟨body ++ 34 :: rest, p⟩ = .ok (s, ⟨rest, q⟩) := by
  obtain ⟨q, hq⟩ := stringBytes_chars h rest p [] hn
  refine ⟨q, ?_⟩
  rw [stringBody, hq]
  simp only [bind, Except.bind, List.reverse_nil, List.nil_append, Utf8.decode_encode,
    String.ofList_toList]
  rfl

end RowRelay.Json
