import Mathlib.Data.Nat.Cast.Order.Field
import RowRelay.Backoff
import RowRelay.Proofs.Binary64

/-!
# How long doubling waits are

`doubled base max attempt` is what a doubling policy comes to in whole numbers: the base, doubled
before every further attempt, up to the greatest wait. As long as the greatest wait fits fifty-three
bits, the wait in doubles is this one exactly (`nominal_doubling`): neither the bound on the growth
nor that on the count of misses is ever seen. Jitter leaves at least half of it (`delay_doubling`).
-/

set_option autoImplicit false

namespace RowRelay

open Binary64 (Denotes)

theorem Jitter.factor_denotes (j : Jitter) :
    ∃ f : ℚ, Denotes j.factor f ∧ 1 / 2 ≤ f ∧ f ≤ 1 := by
  have hlow : (2 ^ 52 : ℚ) ≤ j.units := by exact_mod_cast j.half_le
  have hhigh : (j.units : ℚ) ≤ 2 ^ 53 := by exact_mod_cast j.le_one
  refine ⟨_, ⟨j.units, -53, rfl, rfl⟩, ?_, ?_⟩ <;> norm_num <;> linarith

namespace RetryPolicy

/-- The nanoseconds of a wait that doubles up to a greatest one. -/
def doubled (base max : Duration) (attempt : Nat) : Nat :=
  min (base.nanos * 2 ^ (attempt - 1)) max.nanos

theorem doubled_mono (base max : Duration) : Monotone (doubled base max) := by
  intro attempt attempt' h
  have hpow : 2 ^ (attempt - 1) ≤ 2 ^ (attempt' - 1) :=
    Nat.pow_le_pow_right (by decide) (by omega)
  exact min_le_min_right _ (Nat.mul_le_mul_left _ hpow)

theorem doubled_le (base max : Duration) (attempt : Nat) : doubled base max attempt ≤ max.nanos :=
  min_le_right _ _

theorem ofFloat_two : Denotes (.ofFloat 2.0) (2 ^ 1) :=
  ⟨2 ^ 52, -51, rfl, by norm_num⟩

theorem wait_nanos {x : Binary64} {v : ℚ} (hx : Denotes x v) :
    (wait x).nanos = min (UInt64.size - 1) ⌊v + 1 / 2⌋₊ :=
  congrArg Int.toNat (Binary64.round_denotes hx (UInt64.size - 1))

/-- A wait is between whole numbers that the exact one is between, of which the lower one may have
lost a half. -/
theorem wait_between {x : Binary64} {v : ℚ} (hx : Denotes x v) {low high : Nat}
    (hlow : (low : ℚ) ≤ v + 1 / 2) (hhigh : v ≤ high) (hsize : high ≤ 2 ^ 53) :
    low ≤ (wait x).nanos ∧ (wait x).nanos ≤ high := by
  have hfloor : low ≤ ⌊v + 1 / 2⌋₊ := Nat.le_floor hlow
  have hceil : ⌊v + 1 / 2⌋₊ < high + 1 := by
    refine (Nat.floor_lt' (Nat.succ_ne_zero _)).2 ?_
    push_cast
    linarith
  have hlimit : high ≤ UInt64.size - 1 := hsize.trans (by decide)
  rw [wait_nanos hx]
  omega

section
variable {base max : Duration}

/-- Growing beyond the bound on the growth makes no difference to what is capped. -/
theorem min_growth (hmax : max.nanos ≤ 2 ^ 53) (attempt : Nat) :
    min (base.nanos * 2 ^ growth attempt) max.nanos = doubled base max attempt := by
  rcases Nat.le_total (attempt - 1) 63 with hle | hle
  · rw [growth, min_eq_left hle, doubled]
  · rw [growth, min_eq_right hle, doubled]
    rcases Nat.eq_zero_or_pos base.nanos with hzero | hpos
    · simp [hzero]
    · have hcap : ∀ {n : Nat}, 63 ≤ n → max.nanos ≤ base.nanos * 2 ^ n := by
        intro n hn
        calc max.nanos ≤ 2 ^ 53 := hmax
          _ ≤ 2 ^ n := Nat.pow_le_pow_right (by decide) (by omega)
          _ ≤ base.nanos * 2 ^ n := Nat.le_mul_of_pos_left _ hpos
      rw [min_eq_right (hcap le_rfl), min_eq_right (hcap hle)]

theorem grown_denotes {n : Nat} (hn : n ≤ 2 ^ 53) (attempt : Nat) :
    Denotes ((Binary64.ofNat n).mul
      ((Binary64.ofNat 1).mulPower (.ofFloat 2.0) (growth attempt))) (n * 2 ^ growth attempt) := by
  have hgrowth : growth attempt ≤ 63 := min_le_right _ _
  have hone : Denotes (.ofNat 1) (2 ^ 0) := by
    simpa using Binary64.ofNat_denotes (n := 1) (by decide)
  have hpower : Denotes ((Binary64.ofNat 1).mulPower (.ofFloat 2.0) (growth attempt))
      (2 ^ growth attempt) := by
    simpa using Binary64.mulPower_denotes (growth attempt) hone ofFloat_two (by omega)
  refine Binary64.mul_denotes (Binary64.ofNat_denotes hn) hpower
    ((Binary64.isDouble_natCast hn).scale _) (Binary64.lt_limit (a := 53 + 63) ?_ (by decide))
  have hle : n * 2 ^ growth attempt ≤ 2 ^ (53 + 63) := by
    rw [Nat.pow_add]
    exact Nat.mul_le_mul hn (Nat.pow_le_pow_right (by decide) hgrowth)
  exact_mod_cast hle

/-- **A doubling wait is exact.** -/
theorem nominal_doubling (hbase : base.nanos ≤ max.nanos) (hmax : max.nanos ≤ 2 ^ 53)
    (attempt : Nat) : (doubling base max).nominal attempt = ⟨doubled base max attempt⟩ := by
  have hwait := Binary64.greater_denotes (Binary64.lesser_denotes
    (grown_denotes (hbase.trans hmax) attempt) (Binary64.ofNat_denotes hmax))
    (Binary64.ofNat_denotes (n := 0) (by decide))
  have hvalue : Max.max (min ((base.nanos : ℚ) * 2 ^ growth attempt) max.nanos) (0 : Nat) =
      (doubled base max attempt : Nat) := by
    rw [← min_growth hmax, Nat.cast_zero, max_eq_left (by positivity)]
    push_cast
    rfl
  rw [hvalue] at hwait
  have hhalf :
      ((doubled base max attempt : Nat) : ℚ) ≤ (doubled base max attempt : Nat) + 1 / 2 := by
    linarith
  obtain ⟨hlow, hhigh⟩ :=
    wait_between hwait hhalf le_rfl ((doubled_le base max attempt).trans hmax)
  exact congrArg Duration.mk (Nat.le_antisymm hhigh hlow)

/-- **Jitter takes away at most half of a wait.** -/
theorem delay_doubling (hbase : base.nanos ≤ max.nanos) (hmax : max.nanos ≤ 2 ^ 53)
    (attempt : Nat) (jitter : Jitter) :
    doubled base max attempt / 2 ≤ ((doubling base max).delay attempt jitter).nanos ∧
      ((doubling base max).delay attempt jitter).nanos ≤ doubled base max attempt := by
  have hn : doubled base max attempt ≤ 2 ^ 53 := (doubled_le base max attempt).trans hmax
  have hdelay : (doubling base max).delay attempt jitter =
      wait ((Binary64.ofNat ((doubling base max).nominal attempt).nanos).mul jitter.factor) := rfl
  rw [hdelay, nominal_doubling hbase hmax]
  generalize doubled base max attempt = n at hn ⊢
  obtain ⟨f, hf, hhalf, hone⟩ := jitter.factor_denotes
  have hlost : (n / 2 : ℚ) ≤ n * f := by nlinarith
  have hkept : n * f ≤ n := by nlinarith
  obtain ⟨v, hv, hlow, hhigh⟩ := Binary64.mul_between (Binary64.ofNat_denotes hn) hf
    (Binary64.isDouble_half hn) (Binary64.isDouble_natCast hn)
    (Binary64.lt_limit (a := 53) (by exact_mod_cast hn) (by decide)) hlost hkept
  have hhalf' : ((n / 2 : Nat) : ℚ) ≤ n / 2 := Nat.cast_div_le
  exact wait_between hv (by linarith) hhigh hn

end

end RetryPolicy

namespace Backoff

/-- A backoff that has counted so many misses in a row. -/
def missed (policy : RetryPolicy) (n : Nat) : Backoff :=
  ⟨policy, min n maxConsecutive⟩

theorem missed_miss (policy : RetryPolicy) (n : Nat) :
    (missed policy n).miss = missed policy (n + 1) := by
  have hcount : min (min n maxConsecutive + 1) maxConsecutive = min (n + 1) maxConsecutive := by
    omega
  rw [miss, missed, hcount]
  rfl

theorem missed_reset (policy : RetryPolicy) (n : Nat) :
    (missed policy n).reset = missed policy 0 := rfl

/-- **The waits of a doubling backoff** follow the count of misses, also where it is no longer
kept. -/
theorem delay_missed {base max : Duration} (hbase : base.nanos ≤ max.nanos)
    (hmax : max.nanos ≤ 2 ^ 53) (n : Nat) (jitter : Jitter) :
    RetryPolicy.doubled base max n / 2 ≤
        ((missed (.doubling base max) n).delay jitter).nanos ∧
      ((missed (.doubling base max) n).delay jitter).nanos ≤ RetryPolicy.doubled base max n := by
  have hcount : RetryPolicy.growth (min n maxConsecutive) = RetryPolicy.growth n := by
    simp only [RetryPolicy.growth, maxConsecutive, UInt32.size]
    omega
  rw [← RetryPolicy.min_growth hmax, ← hcount, RetryPolicy.min_growth hmax]
  exact RetryPolicy.delay_doubling hbase hmax (min n maxConsecutive) jitter

end Backoff

end RowRelay
