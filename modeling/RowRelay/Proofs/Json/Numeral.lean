import RowRelay.Json.Style
import RowRelay.Proofs.Json.Grammar
import RowRelay.Proofs.Text.Utf8

/-!
# Reading whole numbers back

`number_toDigits`: the decimal digits of a number below 2^64 are read as the number, if nothing
follows that could continue it. The digits are read one by one (`digits_text`) and make up the
number again (`accumulate_digitValues`), which takes its sign (`whole_natAbs`). So a number of 64
bits is read back from its text (`number_writeInt`).
-/

set_option autoImplicit false

namespace RowRelay.Json

open Utf8 (encode encodeChar)

/-! ## Digits -/

theorem isDigit_iff {b : UInt8} : isDigit b = true ↔ 48 ≤ b ∧ b ≤ 57 := by
  simp [isDigit]

/-- What ends a value does not go on with a number. -/
theorem Ends.not_numeral {b : UInt8} {rest : Bytes} (h : Ends (b :: rest)) :
    isDigit b = false ∧ b ≠ 46 ∧ ¬(b = 101 ∨ b = 69) := by
  rcases h b rfl with (rfl | rfl | rfl | rfl) | rfl | rfl | rfl <;> decide

theorem Ends.not_digit {rest : Bytes} (h : Ends rest) : ∀ b ∈ rest.head?, isDigit b = false := by
  intro b hb
  obtain ⟨tail, rfl⟩ := List.head?_eq_some_iff.1 hb
  exact h.not_numeral.1

theorem digits_text {ds : Bytes} (hds : AllDigits ds) {rest : Bytes}
    (hrest : ∀ b ∈ rest.head?, isDigit b = false) :
    ∀ p, ∃ q, digits ⟨ds ++ rest, p⟩ = (ds.map fun d => d.toNat - 48, ⟨rest, q⟩) := by
  induction ds with
  | nil =>
    intro p
    cases rest with
    | nil => exact ⟨p, rfl⟩
    | cons b rest =>
      have hb := hrest b rfl
      refine ⟨p, ?_⟩
      simp [digits, digitsFrom, hb]
  | cons d ds ih =>
    intro p
    have hd : isDigit d = true := isDigit_iff.2 (hds d List.mem_cons_self)
    obtain ⟨q, hq⟩ := ih (fun x hx => hds x (List.mem_cons_of_mem _ hx)) (p.step d)
    refine ⟨q, ?_⟩
    simp only [digits] at hq
    simp only [digits, List.cons_append, digitsFrom, hd, if_true, hq, List.map_cons]

theorem encodeChar_digit {c : Char} (h : c.isDigit = true) :
    ∃ b, encodeChar c = [b] ∧ isDigit b = true ∧ b.toNat = c.toNat := by
  have hc : 48 ≤ c.toNat ∧ c.toNat ≤ 57 := by
    simpa [Char.isDigit, UInt32.le_iff_toNat_le] using h
  have hn := Utf8.toNat_toUInt8 (show c.toNat < 256 by omega)
  refine ⟨c.toNat.toUInt8, if_pos (by omega), ?_, hn⟩
  simp only [isDigit, UInt8.le_iff_toNat_le, hn, Bool.and_eq_true, decide_eq_true_eq]
  exact hc

theorem encode_digits {cs : List Char} (h : ∀ c ∈ cs, c.isDigit = true) :
    AllDigits (encode cs) ∧
      ((encode cs).map fun d => d.toNat - 48) = cs.map fun c => c.toNat - 48 := by
  induction cs with
  | nil => exact ⟨List.forall_mem_nil _, rfl⟩
  | cons c cs ih =>
    obtain ⟨b, hb, hdigit, hvalue⟩ := encodeChar_digit (h c List.mem_cons_self)
    obtain ⟨hall, hvalues⟩ := ih fun d hd => h d (List.mem_cons_of_mem _ hd)
    have hsplit : encode (c :: cs) = b :: encode cs := by
      simp [encode, hb]
    rw [hsplit]
    exact ⟨List.forall_mem_cons.2 ⟨isDigit_iff.1 hdigit, hall⟩, by
      rw [List.map_cons, hvalues, hvalue, List.map_cons]⟩

/-- The values of the digits of a number. -/
def digitValues (n : Nat) : List Nat :=
  (Nat.toDigits 10 n).map fun c => c.toNat - 48

theorem digitValues_eq (n : Nat) :
    digitValues n = if n < 10 then [n] else digitValues (n / 10) ++ [n % 10] := by
  have hvalue : ∀ {k : Nat}, k < 10 → (Nat.digitChar k).toNat - 48 = k := by
    intro k hk
    rw [Nat.toNat_digitChar_of_lt_ten hk]
    omega
  unfold digitValues
  rw [Nat.toDigits_eq_if (by decide)]
  split
  · next h => simp [hvalue h]
  · rw [List.map_append, List.map_singleton, hvalue (by omega)]

theorem accumulate_concat (d : Nat) (ds : List Nat) :
    ∀ {s t : Nat}, accumulate s ds = (t, 0) → t * 10 + d < UInt64.size →
      accumulate s (ds ++ [d]) = (t * 10 + d, 0) := by
  induction ds with
  | nil =>
    intro s t h hfit
    cases h
    rw [List.nil_append, accumulate, if_pos hfit, accumulate]
  | cons e ds ih =>
    intro s t h hfit
    rw [accumulate] at h
    split at h
    · next hlt => rw [List.cons_append, accumulate, if_pos hlt, ih h hfit]
    · cases h

/-- The digits of a number make up the number. -/
theorem accumulate_digitValues (n : Nat) (h : n < UInt64.size) :
    accumulate 0 (digitValues n) = (n, 0) := by
  induction n using Nat.strongRecOn with
  | ind n ih =>
    rw [digitValues_eq]
    split
    · rw [accumulate, if_pos (by omega), accumulate]
      simp
    · have hback : n / 10 * 10 + n % 10 = n := by omega
      rw [accumulate_concat (n % 10) _ (ih (n / 10) (by omega) (by omega)) (by omega), hback]

/-! ## Numbers -/

/-- The first digit is a zero of nothing but zero. -/
theorem toDigits_head (n : Nat) :
    ∃ c cs, Nat.toDigits 10 n = c :: cs ∧ (c = '0' → n = 0) := by
  induction n using Nat.strongRecOn with
  | ind n ih =>
    rw [Nat.toDigits_eq_if (by decide)]
    split
    · next h =>
      refine ⟨_, _, rfl, fun hzero => ?_⟩
      have hvalue := congrArg Char.toNat hzero
      rw [Nat.toNat_digitChar_of_lt_ten h] at hvalue
      exact Nat.add_left_cancel hvalue
    · obtain ⟨c, cs, hcs, hzero⟩ := ih (n / 10) (by omega)
      refine ⟨c, cs ++ [Nat.digitChar (n % 10)], by rw [hcs, List.cons_append], fun hc => ?_⟩
      have := hzero hc
      omega

theorem isDigit_toDigits {n : Nat} : ∀ c ∈ Nat.toDigits 10 n, c.isDigit = true :=
  fun _ hc => Nat.isDigit_of_mem_toDigits (by decide) (by decide) hc

/-- The text of a number begins with a digit, which is a zero of nothing but zero. -/
theorem encode_toDigits (n : Nat) :
    ∃ b bs, encode (Nat.toDigits 10 n) = b :: bs ∧ isDigit b = true ∧ (b = 48 → n = 0) := by
  obtain ⟨c, cs, hcs, hzero⟩ := toDigits_head n
  obtain ⟨b, hb, hdigit, hvalue⟩ :=
    encodeChar_digit (isDigit_toDigits c (hcs ▸ List.mem_cons_self))
  refine ⟨b, encode cs, ?_, hdigit, ?_⟩
  · rw [hcs, encode, List.flatMap_cons, hb]
    rfl
  · rintro rfl
    exact hzero (Char.toNat_inj.1 hvalue.symm)

theorem wholePart_toDigits (n : Nat) {rest : Bytes} (hrest : Ends rest) (p : Position) :
    ∃ q, wholePart ⟨encode (Nat.toDigits 10 n) ++ rest, p⟩ = .ok (digitValues n, ⟨rest, q⟩) := by
  by_cases hn : n = 0
  · subst hn
    refine ⟨p.step 48, ?_⟩
    cases rest with
    | nil => rfl
    | cons d ds => exact if_neg (by simp [hrest.not_numeral.1])
  · obtain ⟨b, bs, hfirst, hdigit, hzero⟩ := encode_toDigits n
    have hne : b ≠ 48 := fun h => hn (hzero h)
    obtain ⟨hall, hvalues⟩ := encode_digits (isDigit_toDigits (n := n))
    obtain ⟨q, hq⟩ := digits_text hall hrest.not_digit p
    rw [hvalues] at hq
    refine ⟨q, ?_⟩
    rw [hfirst] at hq ⊢
    rw [List.cons_append] at hq ⊢
    simp only [wholePart, Cursor.next?, hne, if_false, hdigit, if_true, hq]
    rfl

/-- **The digits of a number are read as the number.** -/
theorem number_toDigits (negative : Bool) {n : Nat} (h : n < UInt64.size) {rest : Bytes}
    (hrest : Ends rest) (p : Position) :
    ∃ q, number negative ⟨encode (Nat.toDigits 10 n) ++ rest, p⟩ =
      .ok (whole negative n, ⟨rest, q⟩) := by
  obtain ⟨q, hq⟩ := wholePart_toDigits n hrest p
  refine ⟨q, ?_⟩
  rw [number, hq]
  simp only [bind, Except.bind, accumulate_digitValues n h]
  cases rest with
  | nil => rfl
  | cons b rest =>
    obtain ⟨-, hpoint, hletter⟩ := hrest.not_numeral
    simp only [hpoint, hletter, if_false, if_true]
    rfl

theorem whole_natAbs {i : Int} (hlow : Int64.minValue.toInt ≤ i) {negative : Bool}
    (h : negative = true ↔ i < 0) : whole negative i.natAbs = .int i := by
  rw [Int64.toInt_minValue] at hlow
  cases negative with
  | false =>
    have hnonneg : ¬ i < 0 := fun hneg => Bool.false_ne_true (h.2 hneg)
    rw [whole, if_pos (by simp)]
    congr 1
    omega
  | true =>
    have hneg : i < 0 := h.1 rfl
    rw [whole, if_neg (by simp), Int64.toInt_minValue, if_neg (by omega)]
    congr 1
    omega

/-- **The text of a number of 64 bits is read as the number**, behind its sign or from its first
digit on. -/
theorem number_writeInt {i : Int} (hlow : Int64.minValue.toInt ≤ i) (hhigh : i < UInt64.size) :
    ∃ b tail, encode (writeInt i) = b :: tail ∧ (b = 45 ∨ isDigit b = true) ∧
      ∀ {rest : Bytes}, Ends rest → ∀ p, ∃ q,
        (if b = 45 then number true ⟨tail ++ rest, p.step b⟩
          else number false ⟨b :: tail ++ rest, p⟩) = .ok (.int i, ⟨rest, q⟩) := by
  have hsize : i.natAbs < UInt64.size := by
    rw [Int64.toInt_minValue] at hlow
    rw [UInt64.size] at hhigh ⊢
    omega
  unfold writeInt
  split
  · next hneg =>
    refine ⟨45, encode (Nat.toDigits 10 i.natAbs), rfl, .inl rfl, fun hrest p => ?_⟩
    obtain ⟨q, hq⟩ := number_toDigits true hsize hrest (p.step 45)
    rw [whole_natAbs hlow (by simpa using hneg)] at hq
    exact ⟨q, hq⟩
  · next hneg =>
    obtain ⟨b, bs, hfirst, hdigit, -⟩ := encode_toDigits i.natAbs
    refine ⟨b, bs, hfirst, .inr hdigit, fun hrest p => ?_⟩
    obtain ⟨q, hq⟩ := number_toDigits false hsize hrest p
    rw [whole_natAbs hlow (by simpa using hneg), hfirst] at hq
    have hminus : b ≠ 45 := by
      rintro rfl
      cases hdigit
    exact ⟨q, by rw [if_neg hminus]; exact hq⟩

end RowRelay.Json
