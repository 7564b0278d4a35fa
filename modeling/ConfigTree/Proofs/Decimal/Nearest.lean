import Mathlib.Data.Nat.Log
import Mathlib.Tactic.Positivity
import Mathlib.Tactic.Ring
import ConfigTree.Decimal.Numeral

set_option relaxedAutoImplicit false
set_option autoImplicit false

/-!
# The nearest rank of a fraction

Rounding a fraction to the nearest rank depends on the value of the fraction only, takes the value of
a rank back to that rank, and gives zero and infinity for values that are too small and too large.

## Main results

* `ConfigTree.Binary64.units_lt_units_succ` — greater ranks have greater values.
* `ConfigTree.Binary64.nearestRank_congr` — equal fractions have the same nearest rank.
* `ConfigTree.Binary64.nearestRank_units` — the rank nearest to the value of a rank is this rank.
* `ConfigTree.Decimal.rank_eq_nearestRank` — the rank of a decimal is the one nearest to its value,
  also where the exponent alone decides it.

## Implementation notes

The ranks from `2⁵²` on are written `(q + 1) · 2⁵² + m` with `m < 2⁵²`; their value is
`(2⁵² + m) · 2^q` units.
-/

namespace ConfigTree

namespace Binary64

/-- The value of a small rank is the rank itself. -/
lemma units_of_lt {r : ℕ} (h : r < 2 ^ 52) : units r = r := by
  show (if r < 2 ^ 52 then r else _) = r
  rw [if_pos h]

/-- The value of a rank with an exponent is its mantissa, shifted by the exponent. -/
lemma units_normal (q : ℕ) {m : ℕ} (hm : m < 2 ^ 52) :
    units ((q + 1) * 2 ^ 52 + m) = (2 ^ 52 + m) * 2 ^ q := by
  have hge : ¬ (q + 1) * 2 ^ 52 + m < 2 ^ 52 := by omega
  have hdiv : ((q + 1) * 2 ^ 52 + m) / 2 ^ 52 = q + 1 := by omega
  have hmod : ((q + 1) * 2 ^ 52 + m) % 2 ^ 52 = m := by omega
  show (if (q + 1) * 2 ^ 52 + m < 2 ^ 52 then _ else
    (2 ^ 52 + ((q + 1) * 2 ^ 52 + m) % 2 ^ 52) * 2 ^ (((q + 1) * 2 ^ 52 + m) / 2 ^ 52 - 1)) = _
  rw [if_neg hge, hdiv, hmod, Nat.add_sub_cancel]

/-- A rank is small, or it has an exponent and a fraction. -/
lemma rank_cases (r : ℕ) : r < 2 ^ 52 ∨ ∃ q m, m < 2 ^ 52 ∧ r = (q + 1) * 2 ^ 52 + m := by
  by_cases h : r < 2 ^ 52
  · exact .inl h
  · exact .inr ⟨r / 2 ^ 52 - 1, r % 2 ^ 52, by omega, by omega⟩

/-- **Greater ranks have greater values.** -/
lemma units_lt_units_succ (r : ℕ) : units r < units (r + 1) := by
  rcases rank_cases r with h | ⟨q, m, hm, rfl⟩
  · rw [units_of_lt h]
    by_cases hnext : r + 1 < 2 ^ 52
    · rw [units_of_lt hnext]
      omega
    · have hr : r + 1 = (0 + 1) * 2 ^ 52 + 0 := by omega
      rw [hr, units_normal 0 (by omega)]
      omega
  · have hpos : 0 < 2 ^ q := by positivity
    rw [units_normal q hm]
    by_cases hnext : m + 1 < 2 ^ 52
    · rw [Nat.add_assoc, units_normal q hnext]
      exact Nat.mul_lt_mul_of_pos_right (by omega) hpos
    · have hr : (q + 1) * 2 ^ 52 + m + 1 = (q + 1 + 1) * 2 ^ 52 + 0 := by omega
      rw [hr, units_normal (q + 1) (by omega)]
      calc (2 ^ 52 + m) * 2 ^ q < ((2 ^ 52 + 0) * 2) * 2 ^ q :=
            Nat.mul_lt_mul_of_pos_right (by omega) hpos
        _ = (2 ^ 52 + 0) * 2 ^ (q + 1) := by ring

/-- Shifting a number adds to its binary logarithm. -/
lemma log2_mul_two_pow {n : ℕ} (hn : n ≠ 0) (k : ℕ) : (n * 2 ^ k).log2 = n.log2 + k := by
  rw [Nat.log2_eq_iff (by positivity)]
  have hlow := Nat.log2_self_le hn
  have hhigh := Nat.lt_log2_self (n := n)
  rw [Nat.pow_add, Nat.add_right_comm, Nat.pow_add]
  exact ⟨Nat.mul_le_mul_right _ hlow, Nat.mul_lt_mul_of_pos_right hhigh (by positivity)⟩

/-- A mantissa has 53 bits. -/
lemma log2_of_mantissa {m : ℕ} (hm : m < 2 ^ 52) : (2 ^ 52 + m).log2 = 52 := by
  rw [Nat.log2_eq_iff (by omega)]
  omega

/-- The greatest rank whose value is at most that of a rank is this rank. -/
lemma rankBelow_units (r : ℕ) : rankBelow (units r) = r := by
  rcases rank_cases r with h | ⟨q, m, hm, rfl⟩
  · rw [units_of_lt h]
    show (if r < 2 ^ 53 then r else _) = r
    rw [if_pos (by omega)]
  · rw [units_normal q hm]
    show (if (2 ^ 52 + m) * 2 ^ q < 2 ^ 53 then (2 ^ 52 + m) * 2 ^ q else
      (((2 ^ 52 + m) * 2 ^ q).log2 - 52) * 2 ^ 52 +
        (2 ^ 52 + m) * 2 ^ q / 2 ^ (((2 ^ 52 + m) * 2 ^ q).log2 - 52)) = _
    rw [log2_mul_two_pow (by omega), log2_of_mantissa hm, Nat.add_sub_cancel_left,
      Nat.mul_div_cancel _ (by positivity)]
    split
    · rename_i hsmall
      -- the value is below `2⁵³` only for the exponent of the smallest normal numbers
      obtain rfl : q = 0 := by
        by_contra hq
        have h2 : 2 ^ 1 ≤ 2 ^ q := Nat.pow_le_pow_right (by omega) (by omega)
        have hmul : (2 ^ 52 + m) * 2 ^ 1 ≤ (2 ^ 52 + m) * 2 ^ q := Nat.mul_le_mul_left _ h2
        omega
      omega
    · ring

/-- A common factor does not matter for the order of two numbers. -/
lemma compare_mul_right {a b k : ℕ} (hk : 0 < k) : compare (a * k) (b * k) = compare a b := by
  rcases Nat.lt_trichotomy a b with h | rfl | h
  · rw [Nat.compare_eq_lt.mpr h, Nat.compare_eq_lt.mpr (Nat.mul_lt_mul_of_pos_right h hk)]
  · simp
  · rw [Nat.compare_eq_gt.mpr h, Nat.compare_eq_gt.mpr (Nat.mul_lt_mul_of_pos_right h hk)]

/-- A factor in numerator and denominator does not matter. -/
lemma nearestRank_mul_right (num den : ℕ) {k : ℕ} (hk : 0 < k) :
    nearestRank (num * k) (den * k) = nearestRank num den := by
  unfold nearestRank
  rw [Nat.mul_div_mul_right _ _ hk]
  simp only [← Nat.mul_assoc, compare_mul_right hk]

/-- **Equal fractions** have the same nearest rank. -/
lemma nearestRank_congr {num den num' den' : ℕ} (hden : 0 < den) (hden' : 0 < den')
    (h : num * den' = num' * den) : nearestRank num den = nearestRank num' den' := by
  rw [← nearestRank_mul_right num den hden', h, Nat.mul_comm den den',
    nearestRank_mul_right num' den' hden]

/-- **The rank nearest to the value of a rank** is this rank. -/
lemma nearestRank_units {r : ℕ} (hr : r < ranks) : nearestRank (units r) 1 = r := by
  have hmin : min r (ranks - 1) = r := by omega
  have hlt : 2 * units r < (units r + units (r + 1)) * 1 := by
    have := units_lt_units_succ r
    omega
  unfold nearestRank
  simp only [Nat.div_one, rankBelow_units, hmin, Nat.compare_eq_lt.mpr hlt]

/-- A value below half a unit rounds to zero. -/
lemma nearestRank_of_small {num den : ℕ} (h : 2 * num < den) : nearestRank num den = 0 := by
  have hdiv : num / den = 0 := Nat.div_eq_of_lt (by omega)
  have hbelow : rankBelow 0 = 0 := rankBelow_units 0
  have hunits : units 0 + units (0 + 1) = 1 := rfl
  unfold nearestRank
  simp only [hdiv, hbelow, Nat.zero_min, hunits, Nat.one_mul, Nat.compare_eq_lt.mpr h]

/-- Infinity has the rank after the greatest exponent, with an empty fraction. -/
lemma ranks_eq {q : ℕ} (hq : q = 2046) : ranks = (q + 1) * 2 ^ 52 + 0 := by
  rw [hq]
  norm_num [ranks]

/-- The value of infinity is at most `2 ^ 52` times a great power of two. -/
lemma units_ranks_le {k : ℕ} (hk : 2046 ≤ k) : units ranks ≤ 2 ^ 52 * 2 ^ k := by
  obtain ⟨q, hq⟩ : ∃ q, q = 2046 := ⟨_, rfl⟩
  rw [ranks_eq hq, units_normal q (by omega), Nat.add_zero]
  exact Nat.mul_le_mul_left _ (Nat.pow_le_pow_right (by omega) (by omega))

/-- Numbers from there on have no finite rank. -/
lemma ranks_le_rankBelow {n k : ℕ} (hk : 2046 ≤ k) (h : 2 ^ 52 * 2 ^ k ≤ n) :
    ranks ≤ rankBelow n := by
  rw [← Nat.pow_add] at h
  have hn : n ≠ 0 := (Nat.lt_of_lt_of_le (Nat.two_pow_pos _) h).ne'
  have hlog : 52 + k ≤ n.log2 := (Nat.le_log2 hn).mpr h
  have hlow := Nat.log2_self_le hn
  have hmantissa : 2 ^ 52 ≤ n / 2 ^ (n.log2 - 52) := by
    rw [Nat.le_div_iff_mul_le (Nat.two_pow_pos _), ← Nat.pow_add, Nat.add_sub_cancel' (by omega)]
    exact hlow
  have hlarge : ¬ n < 2 ^ 53 := by
    have hpow : 2 ^ 53 ≤ 2 ^ n.log2 := Nat.pow_le_pow_right (by omega) (by omega)
    omega
  have hexponent : 2046 * 2 ^ 52 ≤ (n.log2 - 52) * 2 ^ 52 := Nat.mul_le_mul_right _ (by omega)
  show ranks ≤ if n < 2 ^ 53 then n else (n.log2 - 52) * 2 ^ 52 + n / 2 ^ (n.log2 - 52)
  rw [if_neg hlarge, ranks_eq rfl]
  omega

/-- A value from `2²⁰⁹⁸` units on rounds to infinity. -/
lemma nearestRank_of_large {num den k : ℕ} (hden : 0 < den) (hk : 2046 ≤ k)
    (h : 2 ^ 52 * 2 ^ k * den ≤ num) : nearestRank num den = ranks := by
  have hbelow := ranks_le_rankBelow hk ((Nat.le_div_iff_mul_le hden).mpr h)
  have hmin : min (rankBelow (num / den)) (ranks - 1) = ranks - 1 := by omega
  have hsucc : ranks - 1 + 1 = ranks := by norm_num [ranks]
  have hlt := units_lt_units_succ (ranks - 1)
  rw [hsucc] at hlt
  have hgt : (units (ranks - 1) + units ranks) * den < 2 * num := by
    have hle := units_ranks_le hk
    calc (units (ranks - 1) + units ranks) * den < 2 * (2 ^ 52 * 2 ^ k) * den :=
          Nat.mul_lt_mul_of_pos_right (by omega) hden
      _ = 2 * (2 ^ 52 * 2 ^ k * den) := Nat.mul_assoc _ _ _
      _ ≤ 2 * num := Nat.mul_le_mul_left 2 h
  unfold nearestRank
  simp only [hmin, hsucc, Nat.compare_eq_gt.mpr hgt]

end Binary64

namespace Decimal

open Binary64 (nearestRank one ranks)

/-- The number one, with its exponent kept apart from the power of two. -/
lemma exists_one_eq : ∃ k, k = 1074 ∧ one = 2 ^ k := by
  refine ⟨1074, rfl, ?_⟩
  unfold one
  generalize 1074 = k
  rfl

/-- A power of ten is at least the power of two with three times its exponent. -/
lemma two_pow_le_ten_pow {k n : ℕ} (hk : k ≤ 3 * n) : 2 ^ k ≤ 10 ^ n :=
  calc 2 ^ k ≤ 2 ^ (3 * n) := Nat.pow_le_pow_right (by omega) hk
    _ = (2 ^ 3) ^ n := Nat.pow_mul 2 3 n
    _ ≤ 10 ^ n := Nat.pow_le_pow_left (by omega) n

/-- A number with an exponent above 400 is larger than all finite numbers. -/
lemma nearestRank_of_large_power {digits power : ℕ} (hdigits : digits ≠ 0) (hpower : 400 < power) :
    nearestRank (digits * 10 ^ power * one) 1 = ranks := by
  obtain ⟨k, hk, hone⟩ := exists_one_eq
  have hpow : 2 ^ 1203 ≤ 10 ^ power := two_pow_le_ten_pow (by omega)
  refine Binary64.nearestRank_of_large (k := 1151 + k) Nat.one_pos (by omega) ?_
  calc 2 ^ 52 * 2 ^ (1151 + k) * 1 = 2 ^ 1203 * 2 ^ k := by
        rw [Nat.mul_one, ← Nat.pow_add, ← Nat.pow_add, ← Nat.add_assoc]
    _ ≤ 10 ^ power * 2 ^ k := Nat.mul_le_mul_right _ hpow
    _ ≤ digits * 10 ^ power * 2 ^ k :=
      Nat.mul_le_mul_right _ (Nat.le_mul_of_pos_left _ (Nat.pos_of_ne_zero hdigits))
    _ = digits * 10 ^ power * one := by rw [hone]

/-- A number below `2 ^ (l + 1) / 10 ^ (401 + l)`, where `l` is the binary logarithm of its digits, is
far below half a unit. -/
lemma nearestRank_of_small_power {digits power : ℕ} (hpower : 400 + digits.log2 < power) :
    nearestRank (digits * one) (10 ^ power) = 0 := by
  obtain ⟨k, hk, hone⟩ := exists_one_eq
  have hlog := Nat.mul_lt_mul_of_pos_right (Nat.lt_log2_self (n := digits)) (Nat.two_pow_pos k)
  refine Binary64.nearestRank_of_small ?_
  calc 2 * (digits * one) = 2 * (digits * 2 ^ k) := by rw [hone]
    _ < 2 * (2 ^ (digits.log2 + 1) * 2 ^ k) := by omega
    _ = 2 ^ (k + 2 + digits.log2) := by ring
    _ ≤ 10 ^ power := two_pow_le_ten_pow (by omega)

/-- **The rank of a decimal** is the one nearest to its value, also where the exponent alone decides
it. -/
lemma rank_eq_nearestRank (d : Decimal) :
    d.rank = nearestRank (d.digits * 10 ^ d.exponent.toNat * one) (10 ^ (-d.exponent).toNat) := by
  obtain ⟨digits, exponent⟩ := d
  unfold rank
  simp only
  split
  · rename_i hzero
    rw [Binary64.nearestRank_of_small]
    simp only [hzero, Nat.zero_mul, Nat.mul_zero]
    positivity
  rename_i hdigits
  split
  · rename_i hlarge
    have hden : (-exponent).toNat = 0 := by omega
    rw [hden, Nat.pow_zero, nearestRank_of_large_power hdigits (by omega)]
  rename_i hsmall
  split
  · rename_i htiny
    have hnum : exponent.toNat = 0 := by omega
    rw [hnum, Nat.pow_zero, Nat.mul_one, nearestRank_of_small_power (by omega)]
  split
  · rename_i hneg
    have hnum : exponent.toNat = 0 := by omega
    have hden : (-exponent).toNat = exponent.natAbs := by omega
    rw [hnum, hden, Nat.pow_zero, Nat.mul_one]
    rfl
  · rename_i hnonneg
    have hnum : exponent.toNat = exponent.natAbs := by omega
    have hden : (-exponent).toNat = 0 := by omega
    rw [hnum, hden, Nat.pow_zero]
    rfl

/-- **Decimals of the same value** have the same rank. -/
lemma rank_congr {d d' : Decimal}
    (h : d.digits * 10 ^ d.exponent.toNat * 10 ^ (-d'.exponent).toNat =
      d'.digits * 10 ^ d'.exponent.toNat * 10 ^ (-d.exponent).toNat) : d.rank = d'.rank := by
  rw [rank_eq_nearestRank, rank_eq_nearestRank]
  refine Binary64.nearestRank_congr (by positivity) (by positivity) ?_
  rw [Nat.mul_right_comm, h, Nat.mul_right_comm]

/-- Zeros at the end of the digits count as powers of ten. -/
lemma rank_mul_pow (digits zeros : ℕ) (exponent : ℤ) :
    rank ⟨digits * 10 ^ zeros, exponent⟩ = rank ⟨digits, exponent + zeros⟩ := by
  apply rank_congr
  have hsum : zeros + exponent.toNat + (-(exponent + zeros)).toNat =
      (exponent + zeros).toNat + (-exponent).toNat := by omega
  simp only [Nat.mul_assoc, ← Nat.pow_add, hsum]

end Decimal

end ConfigTree
