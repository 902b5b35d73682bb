import Mathlib.Algebra.Order.Floor.Semifield
import Mathlib.Data.Rat.Floor
import Mathlib.Tactic.FieldSimp
import Mathlib.Tactic.Linarith
import Mathlib.Tactic.Positivity
import RowRelay.Binary64.Product

/-!
# Doubles and the numbers they stand for

`Denotes x v`: the double `x` is the number `v`, which is not negative. `IsDouble v`: `v` is a
number that doubles have the bits for. Rounding does not cross such a number
(`nearest_between`), so an operation whose exact result is one is exact (`mul_denotes`), and one
whose exact result lies between two of them stays there (`mul_between`).
-/

set_option autoImplicit false

namespace RowRelay.Binary64

/-! ## The nearest whole number -/

theorem halfEven_eq (m k : Nat) :
    halfEven m k = m / 2 ^ k ∨ m % 2 ^ k ≠ 0 ∧ halfEven m k = m / 2 ^ k + 1 := by
  have hpos : 0 < 2 ^ k := Nat.two_pow_pos k
  simp only [halfEven, Nat.shiftRight_eq_div_pow, Nat.one_shiftLeft]
  split
  · exact .inr ⟨by omega, rfl⟩
  · exact .inl rfl

theorem halfEven_le {m k c : Nat} (h : m ≤ c * 2 ^ k) : halfEven m k ≤ c := by
  have hdiv : m / 2 ^ k ≤ c := Nat.div_le_of_le_mul (by rwa [Nat.mul_comm])
  rcases halfEven_eq m k with heq | ⟨hrest, heq⟩
  · omega
  · have hlt : m / 2 ^ k ≠ c := by
      rintro rfl
      have hsplit := Nat.div_add_mod m (2 ^ k)
      rw [Nat.mul_comm] at hsplit
      omega
    omega

theorem le_halfEven {m k c : Nat} (h : c * 2 ^ k ≤ m) : c ≤ halfEven m k := by
  have hdiv : c ≤ m / 2 ^ k := (Nat.le_div_iff_mul_le (Nat.two_pow_pos k)).2 h
  rcases halfEven_eq m k with heq | ⟨-, heq⟩ <;> omega

@[simp] theorem halfEven_zero (m : Nat) : halfEven m 0 = m :=
  Nat.le_antisymm (halfEven_le (by omega)) (le_halfEven (by omega))

/-! ## The place of the last bit -/

theorem two_pow_le_of_bitCount {m b : Nat} (h : bitCount m = b + 1) : 2 ^ b ≤ m := by
  unfold bitCount at h
  split at h
  · omega
  · next hm =>
    obtain rfl : Nat.log2 m = b := by omega
    exact Nat.log2_self_le hm

/-- The place of the last bit that is kept. -/
def place (m : Nat) (q : Int) : Int :=
  max q (max (q + bitCount m - 53) (-1074))

/-- Bits are dropped only from a number of more than fifty-three, or at the last place there is. -/
theorem place_eq (m : Nat) (q : Int) : ∃ k : Nat, place m q = q + k ∧
    (k = 0 ∨ place m q = -1074 ∨ 2 ^ (52 + k) ≤ m) := by
  obtain ⟨k, hk⟩ : ∃ k : Nat, place m q = q + k :=
    ⟨(place m q - q).toNat, by unfold place; omega⟩
  refine ⟨k, hk, ?_⟩
  by_cases hdrop : k = 0 ∨ place m q = -1074
  · exact hdrop.imp_right .inl
  · refine .inr (.inr (two_pow_le_of_bitCount ?_))
    unfold place at hk hdrop
    omega

/-! ## Values -/

/-- The double is the number, which is not negative. -/
def Denotes (x : Binary64) (v : ℚ) : Prop :=
  ∃ (m : Nat) (q : Int), x = .finite false m q ∧ (m : ℚ) * 2 ^ q = v

/-- A number that fifty-three bits are enough for. -/
def IsDouble (v : ℚ) : Prop :=
  ∃ (c : Nat) (j : Int), c < 2 ^ 53 ∧ -1074 ≤ j ∧ v = c * 2 ^ j

theorem mul_zpow_add (b k : Nat) (q : Int) : (b : ℚ) * 2 ^ (q + k) = (b * 2 ^ k : Nat) * 2 ^ q := by
  rw [zpow_add₀ (by decide), zpow_natCast]
  push_cast
  ring

theorem mul_zpow_le {a b : Nat} (q : Int) : (a : ℚ) * 2 ^ q ≤ b * 2 ^ q ↔ a ≤ b := by
  rw [mul_le_mul_iff_left₀ (zpow_pos (by decide) q), Nat.cast_le]

/-- What doubles have the bits for is a multiple of any place below its own. -/
theorem shifted {c : Nat} {p j : Int} (h : p ≤ j) :
    ∃ c' : Nat, (c : ℚ) * 2 ^ j = c' * 2 ^ p := by
  obtain ⟨k, rfl⟩ : ∃ k : Nat, j = p + k := ⟨(j - p).toNat, by omega⟩
  exact ⟨c * 2 ^ k, mul_zpow_add c k p⟩

/-- A number with its last bit below the place is less than what has fifty-three bits there. -/
theorem lt_of_place {c n : Nat} {p j : Int} (hc : c < 2 ^ 53) (h : j < p) (hn : 2 ^ 52 ≤ n) :
    (c : ℚ) * 2 ^ j < n * 2 ^ p := by
  obtain ⟨k, rfl⟩ : ∃ k : Nat, p = j + (k + 1 : Nat) := ⟨(p - j - 1).toNat, by omega⟩
  rw [mul_zpow_add, ← not_le, mul_zpow_le, not_le]
  calc c < 2 ^ 52 * 2 ^ 1 := hc
    _ ≤ n * 2 ^ (k + 1) := Nat.mul_le_mul hn (Nat.pow_le_pow_right (by decide) (by omega))

section
variable {m k : Nat} {q : Int} {v : ℚ}

theorem kept_le (hv : IsDouble v) (h : (m : ℚ) * 2 ^ q ≤ v) (hk : place m q = q + k)
    (hdrop : k = 0 ∨ place m q = -1074 ∨ 2 ^ (52 + k) ≤ m) :
    (halfEven m k : ℚ) * 2 ^ place m q ≤ v := by
  obtain ⟨c, j, hc, hj, rfl⟩ := hv
  rcases Int.lt_or_le j (place m q) with hlt | hle
  · rcases hdrop with rfl | hlast | hlarge
    · simpa [hk] using h
    · omega
    · -- the number itself is above every double with bits below the place
      have habove := lt_of_place hc hlt (n := 2 ^ 52) le_rfl
      rw [hk, mul_zpow_add, ← pow_add] at habove
      exact absurd (((mul_zpow_le q).2 hlarge).trans h) (not_le.2 habove)
  · obtain ⟨c', hc'⟩ := shifted hle (c := c)
    rw [hc'] at h ⊢
    rw [hk, mul_zpow_add, mul_zpow_le] at h
    exact (mul_zpow_le _).2 (halfEven_le h)

theorem le_kept (hv : IsDouble v) (h : v ≤ (m : ℚ) * 2 ^ q) (hk : place m q = q + k)
    (hdrop : k = 0 ∨ place m q = -1074 ∨ 2 ^ (52 + k) ≤ m) :
    v ≤ (halfEven m k : ℚ) * 2 ^ place m q := by
  obtain ⟨c, j, hc, hj, rfl⟩ := hv
  rcases Int.lt_or_le j (place m q) with hlt | hle
  · rcases hdrop with rfl | hlast | hlarge
    · simpa [hk] using h
    · omega
    · rw [pow_add] at hlarge
      exact (lt_of_place hc hlt (le_halfEven hlarge)).le
  · obtain ⟨c', hc'⟩ := shifted hle (c := c)
    rw [hc'] at h ⊢
    rw [hk, mul_zpow_add, mul_zpow_le] at h
    exact (mul_zpow_le _).2 (le_halfEven h)

end

/-- **Rounding stays between doubles**, below the greatest of them. -/
theorem nearest_between {m : Nat} {q : Int} {low high : ℚ} (hlow : IsDouble low)
    (hhigh : IsDouble high) (hsize : high < 2 ^ 1024) (hle : low ≤ m * 2 ^ q)
    (hge : m * 2 ^ q ≤ high) : ∃ v, Denotes (nearest false m q) v ∧ low ≤ v ∧ v ≤ high := by
  obtain ⟨k, hk, hdrop⟩ := place_eq m q
  have habove := kept_le hhigh hge hk hdrop
  refine ⟨halfEven m k * 2 ^ place m q, ?_, le_kept hlow hle hk hdrop, habove⟩
  have hshift : (place m q - q).toNat = k := by omega
  change Denotes (if halfEven m (place m q - q).toNat = 0 then .finite false 0 0
    else if 1024 < place m q + bitCount (halfEven m (place m q - q).toNat) then .infinite false
    else .finite false (halfEven m (place m q - q).toNat) (place m q)) _
  rw [hshift]
  split
  · next hzero => exact ⟨0, 0, rfl, by simp [hzero]⟩
  · next hne =>
    obtain ⟨b, hb⟩ : ∃ b, bitCount (halfEven m k) = b + 1 := by
      simp [bitCount, hne]
    have hlarge : (2 : ℚ) ^ (b + place m q) < 2 ^ (1024 : Int) := by
      calc (2 : ℚ) ^ (b + place m q) = (2 ^ b : Nat) * 2 ^ place m q := by
            rw [zpow_add₀ (by decide), zpow_natCast, Nat.cast_pow, Nat.cast_ofNat]
        _ ≤ halfEven m k * 2 ^ place m q := (mul_zpow_le _).2 (two_pow_le_of_bitCount hb)
        _ ≤ high := habove
        _ < 2 ^ (1024 : Int) := hsize
    have hexp : b + place m q < 1024 := (zpow_lt_zpow_iff_right₀ (by decide)).1 hlarge
    rw [if_neg (by omega)]
    exact ⟨_, _, rfl, rfl⟩

/-! ## Arithmetic -/

theorem isDouble_natCast {n : Nat} (h : n ≤ 2 ^ 53) : IsDouble n := by
  rcases Nat.lt_or_eq_of_le h with hlt | rfl
  · exact ⟨n, 0, hlt, by decide, by simp⟩
  · exact ⟨1, 53, by decide, by decide, by norm_num⟩

/-- Powers of two move the place only. -/
theorem IsDouble.scale {v : ℚ} (h : IsDouble v) (k : Nat) : IsDouble (v * 2 ^ k) := by
  obtain ⟨c, j, hc, hj, rfl⟩ := h
  refine ⟨c, j + k, hc, by omega, ?_⟩
  rw [zpow_add₀ (by decide), zpow_natCast, mul_assoc]

/-- A whole number has bits to spare below its last one. -/
theorem isDouble_half {n : Nat} (h : n ≤ 2 ^ 53) : IsDouble (n / 2) := by
  rcases Nat.lt_or_eq_of_le h with hlt | rfl
  · exact ⟨n, -1, hlt, by decide, by rw [zpow_neg_one, div_eq_mul_inv]⟩
  · exact ⟨1, 52, by decide, by decide, by norm_num⟩

theorem lt_limit {v : ℚ} {a : Nat} (h : v ≤ 2 ^ a) (ha : a < 1024) : v < 2 ^ 1024 :=
  h.trans_lt (pow_lt_pow_right₀ (by decide) ha)

section
variable {x y : Binary64} {v w : ℚ}

theorem ofNat_denotes {n : Nat} (h : n ≤ 2 ^ 53) : Denotes (ofNat n) n := by
  have hdouble := isDouble_natCast h
  have hsize : (n : ℚ) ≤ 2 ^ 53 := by exact_mod_cast h
  obtain ⟨u, hu, hle, hge⟩ := nearest_between (m := n) (q := 0) hdouble hdouble
    (lt_limit hsize (by decide)) (by simp) (by simp)
  exact le_antisymm hle hge ▸ hu

/-- **A product between two doubles** stays there. -/
theorem mul_between {low high : ℚ} (hx : Denotes x v) (hy : Denotes y w) (hlow : IsDouble low)
    (hhigh : IsDouble high) (hsize : high < 2 ^ 1024) (hle : low ≤ v * w) (hge : v * w ≤ high) :
    ∃ u, Denotes (x.mul y) u ∧ low ≤ u ∧ u ≤ high := by
  obtain ⟨m, q, rfl, rfl⟩ := hx
  obtain ⟨n, r, rfl, rfl⟩ := hy
  have hmul : ((m * n : Nat) : ℚ) * 2 ^ (q + r) = m * 2 ^ q * (n * 2 ^ r) := by
    rw [zpow_add₀ (by decide), Nat.cast_mul]
    ring
  rw [← hmul] at hle hge
  exact nearest_between hlow hhigh hsize hle hge

/-- **A product that is a double is exact.** -/
theorem mul_denotes (hx : Denotes x v) (hy : Denotes y w) (h : IsDouble (v * w))
    (hsize : v * w < 2 ^ 1024) : Denotes (x.mul y) (v * w) := by
  obtain ⟨u, hu, hle, hge⟩ := mul_between hx hy h h hsize le_rfl le_rfl
  exact le_antisymm hle hge ▸ hu

theorem mulPower_denotes (n : Nat) : ∀ {x y : Binary64} {a b : Nat}, Denotes x (2 ^ a) →
    Denotes y (2 ^ b) → a + b * n < 1024 → Denotes (x.mulPower y n) (2 ^ (a + b * n)) := by
  have hpower : ∀ {x y : Binary64} {a b : Nat}, Denotes x (2 ^ a) → Denotes y (2 ^ b) →
      a + b < 1024 → Denotes (x.mul y) (2 ^ (a + b)) := by
    intro x y a b hx hy hsize
    have hdouble := (isDouble_natCast (n := 1) (by decide)).scale (a + b)
    rw [Nat.cast_one, one_mul] at hdouble
    rw [pow_add] at hdouble ⊢
    refine mul_denotes hx hy hdouble ?_
    rw [← pow_add]
    exact pow_lt_pow_right₀ (by decide) hsize
  induction n using Nat.strongRecOn with
  | ind n ih =>
    intro x y a b hx hy hsize
    have hsplit : b * n = b * (n % 2) + (b + b) * (n / 2) := by
      conv_lhs => rw [← Nat.mod_add_div n 2]
      ring
    rw [hsplit, ← Nat.add_assoc] at hsize ⊢
    rw [mulPower]
    have hfirst : Denotes (if n % 2 = 1 then x.mul y else x) (2 ^ (a + b * (n % 2))) := by
      rcases Nat.mod_two_eq_zero_or_one n with hbit | hbit
      · simpa [hbit] using hx
      · rw [hbit, Nat.mul_one] at hsize ⊢
        exact hpower hx hy (by omega)
    split
    · next hlast => simpa [hlast] using hfirst
    · next hmore =>
      have hsquare : b + b ≤ (b + b) * (n / 2) := Nat.le_mul_of_pos_right _ (by omega)
      exact ih (n / 2) (by omega) hfirst (hpower hy hy (by omega)) hsize

theorem isLess_denotes (hx : Denotes x v) (hy : Denotes y w) : x.isLess y = true ↔ v < w := by
  obtain ⟨m, p, rfl, rfl⟩ := hx
  obtain ⟨n, q, rfl, rfl⟩ := hy
  obtain ⟨least, k, l, hmin, rfl, rfl⟩ : ∃ (least : Int) (k l : Nat),
      min p q = least ∧ p = least + k ∧ q = least + l :=
    ⟨min p q, (p - min p q).toNat, (q - min p q).toNat, rfl, by omega, by omega⟩
  have hk : (least + k - least).toNat = k := by omega
  have hl : (least + l - least).toNat = l := by omega
  simp only [isLess, hmin, hk, hl, signed, mul_zpow_add, Nat.shiftLeft_eq]
  rw [lt_iff_lt_of_le_iff_le (mul_zpow_le least)]
  simp only [Bool.false_eq_true, if_false, decide_eq_true_eq, Nat.cast_lt]

theorem lesser_denotes (hx : Denotes x v) (hy : Denotes y w) : Denotes (x.lesser y) (min v w) := by
  have hlesser : x.lesser y = if y.isLess x then y else x := by
    obtain ⟨m, q, rfl, -⟩ := hx
    rfl
  rw [hlesser]
  split
  · next h => rwa [min_eq_right ((isLess_denotes hy hx).1 h).le]
  · next h => rwa [min_eq_left (not_lt.1 fun hlt => h ((isLess_denotes hy hx).2 hlt))]

theorem greater_denotes (hx : Denotes x v) (hy : Denotes y w) :
    Denotes (x.greater y) (max v w) := by
  have hgreater : x.greater y = if x.isLess y then y else x := by
    obtain ⟨m, q, rfl, -⟩ := hx
    rfl
  rw [hgreater]
  split
  · next h => rwa [max_eq_right ((isLess_denotes hx hy).1 h).le]
  · next h => rwa [max_eq_left (not_lt.1 fun hlt => h ((isLess_denotes hx hy).2 hlt))]

theorem roundHalfUp_eq (m : Nat) (q : Int) : roundHalfUp m q = ⌊(m : ℚ) * 2 ^ q + 1 / 2⌋₊ := by
  unfold roundHalfUp
  split
  · next hq =>
    obtain ⟨k, rfl⟩ := Int.eq_ofNat_of_zero_le hq
    have hhalf : ⌊((m * 2 ^ k : Nat) : ℚ) + 1 / 2⌋₊ = m * 2 ^ k := by
      rw [Nat.floor_eq_iff (by positivity)]
      constructor <;> linarith
    rw [Int.toNat_natCast, Nat.shiftLeft_eq, zpow_natCast, ← hhalf]
    push_cast
    rfl
  · next hq =>
    obtain ⟨k, rfl⟩ : ∃ k : Nat, q = -(k + 1 : Nat) := ⟨(-q - 1).toNat, by omega⟩
    have hk : (- -((k + 1 : Nat) : Int)).toNat - 1 = k := by omega
    rw [hk, Nat.one_shiftLeft, ← Nat.floor_div_eq_div (K := ℚ)]
    congr 1
    rw [zpow_neg, zpow_natCast]
    push_cast
    field_simp
    ring

/-- Rounding goes to the whole number below a half more. -/
theorem round_denotes (hx : Denotes x v) (greatest : Nat) :
    x.round 0 greatest = (min greatest ⌊v + 1 / 2⌋₊ : Nat) := by
  obtain ⟨m, q, rfl, rfl⟩ := hx
  rw [← roundHalfUp_eq]
  simp only [round, Bool.false_eq_true, if_false]
  omega

end

end RowRelay.Binary64
