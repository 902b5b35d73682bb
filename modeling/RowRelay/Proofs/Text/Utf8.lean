import Mathlib.Tactic.IntervalCases
import RowRelay.Text.Utf8

/-!
# Reading UTF-8 back

`decode_encode`: the bytes written for characters are read as these characters. The reader goes
through the bytes of each character from its first (`lead_two` and the others) over those that
follow (`push_more`, `push_last`) back to where a character begins (`decodeFrom_encodeChar`).
-/

set_option autoImplicit false

namespace RowRelay.Utf8

theorem toNat_toUInt8 {n : Nat} (h : n < 256) : n.toUInt8.toNat = n := by
  rw [Nat.toUInt8, UInt8.toNat_ofNat']
  omega

/-! ## First bytes -/

theorem lead_one {n : Nat} (h : n < 0x80) : lead n.toUInt8 = .single (Char.ofNat n) := by
  have hn := toNat_toUInt8 (show n < 256 by omega)
  have hlt : n.toUInt8 < 0x80 := by
    rw [UInt8.lt_iff_toNat_lt, hn]
    exact h
  rw [lead, if_pos hlt, hn]

theorem lead_two {n : Nat} (h : n < 32) (hlong : 2 ≤ n) :
    lead (0xC0 + n).toUInt8 = .more ⟨n, 0, 0x80, 0xBF⟩ := by
  interval_cases n <;> rfl

theorem lead_three {n : Nat} (h : n < 16) :
    lead (0xE0 + n).toUInt8 =
      .more ⟨n, 1, if n = 0 then 0xA0 else 0x80, if n = 13 then 0x9F else 0xBF⟩ := by
  interval_cases n <;> rfl

theorem lead_four {n : Nat} (h : n < 5) :
    lead (0xF0 + n).toUInt8 =
      .more ⟨n, 2, if n = 0 then 0x90 else 0x80, if n = 4 then 0x8F else 0xBF⟩ := by
  interval_cases n <;> rfl

/-! ## The bytes that follow -/

theorem push_more {bits k after : Nat} {least greatest : UInt8} (h : k < 64)
    (hleast : least.toNat ≤ 0x80 + k) (hgreatest : 0x80 + k ≤ greatest.toNat) :
    Pending.push ⟨bits, after + 1, least, greatest⟩ (0x80 + k).toUInt8 =
      some (.inr ⟨bits * 64 + k, after, 0x80, 0xBF⟩) := by
  have hn := toNat_toUInt8 (show 0x80 + k < 256 by omega)
  have hmod : (0x80 + k) % 64 = k := by omega
  simp only [Pending.push, UInt8.le_iff_toNat_le, hn, hmod, hleast, hgreatest, and_self,
    if_true]

theorem push_last {bits k : Nat} (h : k < 64) :
    Pending.push ⟨bits, 0, 0x80, 0xBF⟩ (0x80 + k).toUInt8 =
      some (.inl (Char.ofNat (bits * 64 + k))) := by
  have hn := toNat_toUInt8 (show 0x80 + k < 256 by omega)
  have hmod : (0x80 + k) % 64 = k := by omega
  have hleast : (0x80 : UInt8).toNat ≤ 0x80 + k := Nat.le_add_right _ _
  have hgreatest : 0x80 + k ≤ (0xBF : UInt8).toNat := by
    change 128 + k ≤ 191
    omega
  simp only [Pending.push, UInt8.le_iff_toNat_le, hn, hmod, hleast, hgreatest, and_self,
    if_true]

/-! ## Characters -/

theorem decodeFrom_encodeChar (c : Char) (start offset : Nat) (seen : List Char) (bs : Bytes) :
    ∃ start' offset', decodeFrom none start offset seen (encodeChar c ++ bs) =
      decodeFrom none start' offset' (c :: seen) bs := by
  have hc : Char.ofNat c.toNat = c := Char.ofNat_toNat c
  have hvalid : c.toNat < 0xD800 ∨ 0xDFFF < c.toNat ∧ c.toNat < 0x110000 := c.valid
  unfold encodeChar
  generalize c.toNat = n at hc hvalid
  dsimp only
  split
  · next h1 =>
    refine ⟨offset, offset + 1, ?_⟩
    simp only [List.cons_append, List.nil_append, decodeFrom, lead_one h1, hc]
  · split
    · next h1 h2 =>
      have hbits : n / 64 * 64 + n % 64 = n := by omega
      refine ⟨offset + 1, offset + 1 + 1, ?_⟩
      simp only [List.cons_append, List.nil_append, decodeFrom,
        lead_two (show n / 64 < 32 by omega) (by omega), push_last (show n % 64 < 64 by omega),
        hbits, hc]
    · split
      · next h1 h2 h3 =>
        have hbits : (n / 4096 * 64 + n / 64 % 64) * 64 + n % 64 = n := by omega
        refine ⟨offset + 1 + 1, offset + 1 + 1 + 1, ?_⟩
        simp only [List.cons_append, List.nil_append, decodeFrom,
          lead_three (show n / 4096 < 16 by omega)]
        -- the ranges of the second byte shut out no character
        rw [push_more (by omega) (by split <;> simp; omega) (by split <;> (simp; omega))]
        simp only [push_last (show n % 64 < 64 by omega), hbits, hc]
      · next h1 h2 h3 =>
        have hbits : ((n / 262144 * 64 + n / 4096 % 64) * 64 + n / 64 % 64) * 64 + n % 64 = n := by
          omega
        refine ⟨offset + 1 + 1 + 1, offset + 1 + 1 + 1 + 1, ?_⟩
        simp only [List.cons_append, List.nil_append, decodeFrom,
          lead_four (show n / 262144 < 5 by omega)]
        rw [push_more (by omega) (by split <;> simp; omega) (by split <;> (simp; omega))]
        simp only
        rw [push_more (by omega) (by simp) (by simp; omega)]
        simp only [push_last (show n % 64 < 64 by omega), hbits, hc]

theorem decodeFrom_encode (cs : List Char) :
    ∀ (start offset : Nat) (seen : List Char),
      decodeFrom none start offset seen (encode cs) = .ok (seen.reverse ++ cs) := by
  induction cs with
  | nil => simp [encode, decodeFrom]
  | cons c cs ih =>
    intro start offset seen
    obtain ⟨start', offset', h⟩ := decodeFrom_encodeChar c start offset seen (encode cs)
    rw [encode, List.flatMap_cons, ← encode, h, ih]
    simp

/-- **What is written for characters is read as these characters.** -/
theorem decode_encode (cs : List Char) : decode (encode cs) = .ok cs :=
  decodeFrom_encode cs 0 0 []

theorem encode_injective {cs cs' : List Char} (h : encode cs = encode cs') : cs = cs' := by
  have hread := decode_encode cs'
  rw [← h, decode_encode] at hread
  exact Except.ok.inj hread

end RowRelay.Utf8
