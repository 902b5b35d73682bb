import Mathlib.Algebra.Group.Nat.Defs
import RowRelay.Bytes

/-!
# The order of byte strings

Byte strings of one length are numerals to the base 256, the most significant digit first, and
their order is that of the numbers they spell (`lt_iff_value`).

* `word?_eq`: a byte string of eight bytes or more begins with the word that these spell.
* `signed_ofWord`: the number with a sign that a word stands for is read back from its bytes.
* `ofWord_append_lt`: strings that begin with words are ordered by these, and by what follows where
  the words are equal.
-/

set_option autoImplicit false

namespace RowRelay.Bytes

/-- The number that bytes spell. -/
def value : Bytes → Nat
  | [] => 0
  | b :: bs => b.toNat * 256 ^ bs.length + value bs

theorem value_lt : ∀ bs : Bytes, value bs < 256 ^ bs.length
  | [] => Nat.one_pos
  | b :: bs => by
    have hb := b.toNat_lt
    have hbs := value_lt bs
    have hle : b.toNat * 256 ^ bs.length + 256 ^ bs.length ≤ 256 * 256 ^ bs.length := by
      rw [← Nat.succ_mul]
      exact Nat.mul_le_mul_right _ hb
    rw [value, List.length_cons, Nat.pow_succ']
    omega

/-- **The order of byte strings of one length is that of their numbers.** -/
theorem lt_iff_value : ∀ {as bs : Bytes}, as.length = bs.length →
    (as < bs ↔ value as < value bs)
  | [], [], _ => by simp [value]
  | a :: as, b :: bs, h => by
    have hlen : as.length = bs.length := by simpa using h
    have ha := value_lt as
    have hb := value_lt bs
    rw [List.cons_lt_cons_iff, lt_iff_value hlen, value, value, hlen]
    rw [hlen] at ha
    have hstep : ∀ {x y : UInt8}, x < y →
        x.toNat * 256 ^ bs.length + 256 ^ bs.length ≤ y.toNat * 256 ^ bs.length := by
      intro x y hxy
      rw [← Nat.succ_mul]
      exact Nat.mul_le_mul_right _ (UInt8.lt_iff_toNat_lt.1 hxy)
    rcases Std.lt_trichotomy a b with hab | rfl | hba
    · have := hstep hab
      exact ⟨fun _ => by omega, fun _ => .inl hab⟩
    · simp [UInt8.lt_irrefl]
    · have := hstep hba
      refine ⟨fun h => ?_, fun h => by omega⟩
      rcases h with hab | ⟨rfl, -⟩
      · exact absurd hab (UInt8.lt_asymm hba)
      · exact absurd hba (UInt8.lt_irrefl a)

theorem append_lt_iff {xs ys : Bytes} : ∀ {as bs : Bytes}, as.length = bs.length →
    (as ++ xs < bs ++ ys ↔ as < bs ∨ as = bs ∧ xs < ys)
  | [], [], _ => by simp
  | a :: as, b :: bs, h => by
    have ih : as ++ xs < bs ++ ys ↔ as < bs ∨ as = bs ∧ xs < ys := append_lt_iff (by simpa using h)
    rw [List.cons_append, List.cons_append, List.cons_lt_cons_iff, List.cons_lt_cons_iff, ih,
      List.cons.injEq]
    constructor
    · rintro (hab | ⟨rfl, has | ⟨rfl, hxs⟩⟩)
      · exact .inl (.inl hab)
      · exact .inl (.inr ⟨rfl, has⟩)
      · exact .inr ⟨⟨rfl, rfl⟩, hxs⟩
    · rintro ((hab | ⟨rfl, has⟩) | ⟨⟨rfl, rfl⟩, hxs⟩)
      · exact .inl hab
      · exact .inr ⟨rfl, .inl has⟩
      · exact .inr ⟨rfl, .inr ⟨rfl, hxs⟩⟩

/-! ## Words -/

@[simp] theorem ofWord_length (w : UInt64) : (ofWord w).length = 8 := rfl

theorem value_ofWord (w : UInt64) : value (ofWord w) = w.toNat := by
  have hw := w.toNat_lt
  simp only [ofWord, List.map_cons, List.map_nil, value, List.length_cons, List.length_nil]
  simp [Nat.shiftRight_eq_div_pow]
  omega

theorem ofWord_inj {v w : UInt64} (h : ofWord v = ofWord w) : v = w := by
  rw [← UInt64.toNat_inj, ← value_ofWord, h, value_ofWord]

/-- Byte strings that begin with words are ordered by these first. -/
theorem ofWord_append_lt {v w : UInt64} {xs ys : Bytes} :
    ofWord v ++ xs < ofWord w ++ ys ↔ v < w ∨ v = w ∧ xs < ys := by
  rw [append_lt_iff (by simp), lt_iff_value (by simp), value_ofWord, value_ofWord,
    ← UInt64.lt_iff_toNat_lt]
  exact or_congr_right (and_congr_left' ⟨ofWord_inj, congrArg ofWord⟩)

theorem toNat_push (w : UInt64) (b : UInt8) :
    ((w <<< 8) ||| b.toUInt64).toNat = (w.toNat * 256 + b.toNat) % 2 ^ 64 := by
  have hb := b.toNat_lt
  have hdiv : w.toNat * 256 % 2 ^ 64 = 2 ^ 8 * (w.toNat % 2 ^ 56) := by omega
  rw [UInt64.toNat_or, UInt64.toNat_shiftLeft, UInt8.toNat_toUInt64]
  simp only [UInt64.reduceToNat, Nat.reduceMod, Nat.shiftLeft_eq]
  rw [show w.toNat * 2 ^ 8 = w.toNat * 256 from rfl, hdiv, ← Nat.two_pow_add_eq_or_of_lt hb]
  omega

theorem toNat_foldl (bs : Bytes) : ∀ w : UInt64,
    (bs.foldl (fun (w : UInt64) x => (w <<< 8) ||| x.toUInt64) w).toNat =
      (w.toNat * 256 ^ bs.length + value bs) % 2 ^ 64 := by
  induction bs with
  | nil =>
    intro w
    simp [value, Nat.mod_eq_of_lt w.toNat_lt]
  | cons b bs ih =>
    intro w
    rw [List.foldl_cons, ih, toNat_push, value, List.length_cons,
      ← Nat.mod_add_mod, Nat.mod_mul_mod, Nat.mod_add_mod]
    congr 1
    rw [Nat.add_mul, Nat.mul_assoc, Nat.add_assoc, Nat.pow_succ']

/-- **A byte string of eight bytes or more begins with the word that these spell.** -/
theorem word?_eq : ∀ bs : Bytes, word? bs =
    if 8 ≤ bs.length then some (.ofNat (value (bs.take 8))) else none
  | a :: b :: c :: d :: e :: f :: g :: h :: bs => by
    have hfold := toNat_foldl [a, b, c, d, e, f, g, h] 0
    rw [UInt64.toNat_zero, Nat.zero_mul, Nat.zero_add, ← UInt64.toNat_ofNat'] at hfold
    rw [word?, UInt64.toNat_inj.1 hfold]
    exact (if_pos (Nat.le_add_left 8 bs.length)).symm
  | [] | [_] | [_, _] | [_, _, _] | [_, _, _, _] | [_, _, _, _, _] | [_, _, _, _, _, _]
  | [_, _, _, _, _, _, _] => rfl

/-- The number with a sign that bytes spell, in two's complement. -/
def signed (bs : Bytes) : Int :=
  Int.bmod (value bs) (256 ^ bs.length)

theorem toInt_word {bs : Bytes} (h : bs.length = 8) :
    (UInt64.ofNat (value bs)).toInt64.toInt = signed bs := by
  have hbits : (UInt64.ofNat (value bs)).toInt64.toInt = (BitVec.ofNat 64 (value bs)).toInt := rfl
  rw [hbits, BitVec.toInt_ofNat', signed, h]
  rfl

/-- **The number that a word stands for is read back.** -/
theorem signed_ofWord (w : UInt64) : signed (ofWord w) = w.toInt64.toInt := by
  rw [← toInt_word (ofWord_length w), value_ofWord, UInt64.ofNat_toNat]

end RowRelay.Bytes
