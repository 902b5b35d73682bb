import Mathlib.Tactic.IntervalCases
import RowRelay.Decimal.Read
import RowRelay.Json.Style

/-!
# Reading whole numbers back

A whole number of 64 bits in plain decimal is read as itself (`signed64?_writeInt`), and nothing
else is ever read from plain decimal (`eq_of_signed64?_writeInt`, `eq_of_unsigned64?_writeInt`).
-/

set_option autoImplicit false

namespace RowRelay.Decimal

open Json (writeInt)

/-- Digits are put together again by a step that takes one more of them. -/
theorem foldlM_toDigits {step : Nat → Char → Option Nat}
    (hstep : ∀ n d, d < 10 → step n (Nat.digitChar d) = some (n * 10 + d)) (n : Nat) :
    (Nat.toDigits 10 n).foldlM step 0 = some n := by
  induction n using Nat.strongRecOn with
  | ind n ih =>
    rw [Nat.toDigits_eq_if (by decide)]
    split
    · next hn =>
      rw [List.foldlM_cons, hstep 0 n hn, Nat.zero_mul, Nat.zero_add]
      rfl
    · next hn =>
      have hfront := ih (n / 10) (Nat.div_lt_self (by omega) (by decide))
      have hlast := hstep (n / 10) (n % 10) (Nat.mod_lt n (by decide))
      have hsum : n / 10 * 10 + n % 10 = n := by omega
      rw [List.foldlM_append, hfront]
      simp [hlast, hsum]

theorem toDigits_cons (n : Nat) :
    ∃ c cs, Nat.toDigits 10 n = c :: cs ∧ c.isDigit = true := by
  cases h : Nat.toDigits 10 n with
  | nil => exact absurd h Nat.toDigits_ne_nil
  | cons c cs =>
    exact ⟨c, cs, rfl, Nat.isDigit_of_mem_toDigits (b := 10) (n := n) (by decide) (by decide)
      (h ▸ List.mem_cons_self)⟩

theorem natural?_toDigits (n : Nat) : natural? 10 (Nat.toDigits 10 n) = some n := by
  obtain ⟨c, cs, hcs, -⟩ := toDigits_cons n
  rw [natural?, if_neg (by rw [hcs]; exact Bool.false_ne_true)]
  exact foldlM_toDigits (fun n d hd => by interval_cases d <;> rfl) n

theorem takeSign_digit {c : Char} (h : c.isDigit = true) (cs : List Char) :
    takeSign (c :: cs) = (none, c :: cs) := by
  unfold takeSign
  split
  · next heq =>
    cases heq
    cases h
  · next heq =>
    cases heq
    cases h
  · rfl

theorem writeInt_cons (n : Int) :
    ∃ c cs, writeInt n = c :: cs ∧ (c = '-' ∨ c.isDigit = true) := by
  unfold writeInt
  split
  · exact ⟨'-', _, rfl, .inl rfl⟩
  · obtain ⟨c, cs, hcs, hdigit⟩ := toDigits_cons n.natAbs
    exact ⟨c, cs, hcs, .inr hdigit⟩

theorem mem_writeInt {n : Int} {c : Char} (h : c ∈ writeInt n) : c = '-' ∨ c.isDigit = true := by
  have hdigit : c ∈ Nat.toDigits 10 n.natAbs → c.isDigit = true :=
    Nat.isDigit_of_mem_toDigits (by decide) (by decide)
  unfold writeInt at h
  split at h
  · exact (List.mem_cons.1 h).imp_right hdigit
  · exact .inr (hdigit h)

theorem integer?_writeInt (n : Int) : integer? 10 (writeInt n) = some n := by
  have hread := natural?_toDigits n.natAbs
  unfold writeInt
  split
  · next hn =>
    have habs : -(n.natAbs : Int) = n := by omega
    rw [integer?, takeSign]
    simp only [hread, bind, Option.bind_some, pure, Option.map_some, habs]
  · next hn =>
    have habs : (n.natAbs : Int) = n := by omega
    obtain ⟨c, cs, hcs, hdigit⟩ := toDigits_cons n.natAbs
    rw [hcs] at hread
    rw [integer?, hcs, takeSign_digit hdigit]
    simp [hread, habs]

theorem signed64?_writeInt {n : Int} (hlow : Int64.minValue.toInt ≤ n)
    (hhigh : n ≤ Int64.maxValue.toInt) : signed64? 10 (writeInt n) = some n := by
  rw [signed64?, integer?_writeInt]
  exact if_pos ⟨hlow, hhigh⟩

theorem eq_of_signed64?_writeInt {n z : Int} (h : signed64? 10 (writeInt z) = some n) :
    n = z ∧ Int64.minValue.toInt ≤ z ∧ z ≤ Int64.maxValue.toInt := by
  rw [signed64?, integer?_writeInt] at h
  obtain ⟨hbounds, ⟨⟩⟩ := Option.ite_none_right_eq_some.1 h
  exact ⟨rfl, hbounds⟩

theorem eq_of_unsigned64?_writeInt {n : Nat} {z : Int} (h : unsigned64? (writeInt z) = some n) :
    (n : Int) = z ∧ n < UInt64.size := by
  unfold writeInt at h
  split at h
  · cases h
  · next hz =>
    obtain ⟨c, cs, hcs, hdigit⟩ := toDigits_cons z.natAbs
    have hread := natural?_toDigits z.natAbs
    rw [hcs] at h hread
    have hcount : unsigned64? (c :: cs) =
        if z.natAbs < UInt64.size then some z.natAbs else none := by
      unfold unsigned64?
      split
      · next heq =>
        cases heq
        cases hdigit
      · simp only [hread]
        rfl
    obtain ⟨hsize, ⟨⟩⟩ := Option.ite_none_right_eq_some.1 (hcount.symm.trans h)
    exact ⟨by omega, hsize⟩

end RowRelay.Decimal
