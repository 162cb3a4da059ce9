import Mathlib.Algebra.Order.Floor.Semifield
import Mathlib.Data.Int.Log
import Mathlib.Data.Rat.Floor
import Mathlib.Tactic.FieldSimp
import Mathlib.Tactic.Positivity
import Stencil.Number.Binary64

set_option autoImplicit false

namespace Stencil.Number

namespace Ratio

def value (r : Ratio) : ℚ :=
  r.num / r.den

theorem value_pos {r : Ratio} (num : 0 < r.num) (den : 0 < r.den) : 0 < r.value := by
  unfold value
  positivity

theorem value_eq_zero_iff {r : Ratio} (den : 0 < r.den) : r.value = 0 ↔ r.num = 0 := by
  have nonzero : (r.den : ℚ) ≠ 0 := by positivity
  simp [value, nonzero]

theorem den_scaleDown_pos {r : Ratio} {base : Nat} (exponent : Int) (positive : 0 < r.den)
    (large : 0 < base) : 0 < (r.scaleDown base exponent).den := by
  unfold scaleDown
  split
  next => exact Nat.mul_pos positive (Nat.pow_pos large)
  next => exact positive

theorem value_scaleDown (r : Ratio) (base : Nat) (exponent : Int) :
    (r.scaleDown base exponent).value = r.value / (base : ℚ) ^ exponent := by
  unfold scaleDown
  split
  next nonnegative =>
    obtain ⟨n, rfl⟩ := Int.eq_ofNat_of_zero_le nonnegative
    simp [value, div_div]
  next negative =>
    obtain ⟨n, rfl⟩ := Int.exists_eq_neg_ofNat (show exponent ≤ 0 by omega)
    simp [value, div_mul_eq_mul_div]

theorem floor_eq (r : Ratio) : r.floor = ⌊r.value⌋₊ :=
  (Nat.floor_div_eq_div r.num r.den).symm

theorem leadingExponentFrom_eq {r : Ratio} {base : Nat} {guess : Int} (large : 1 < base)
    (positive : 0 < r.value) (low : (base : ℚ) ^ (guess - 1) ≤ r.value)
    (high : r.value < (base : ℚ) ^ (guess + 1)) :
    r.leadingExponentFrom base guess = Int.log base r.value := by
  have scale : (0 : ℚ) < (base : ℚ) ^ guess := zpow_pos (by exact_mod_cast by omega) guess
  have least : guess - 1 ≤ Int.log base r.value := (Int.zpow_le_iff_le_log large positive).1 low
  have most : Int.log base r.value < guess + 1 := (Int.lt_zpow_iff_log_lt large positive).1 high
  have below : (r.scaleDown base guess).floor = 0 ↔ Int.log base r.value < guess := by
    rw [floor_eq, value_scaleDown, Nat.floor_eq_zero, div_lt_one scale]
    exact Int.lt_zpow_iff_log_lt large positive
  unfold leadingExponentFrom
  split
  next small =>
    have := below.1 small
    omega
  next notSmall =>
    have := mt below.2 notSmall
    omega

theorem log2_eq {r : Ratio} (num : 0 < r.num) (den : 0 < r.den) :
    r.log2 = Int.log 2 r.value := by
  have numLow : (2 : ℚ) ^ r.num.log2 ≤ r.num := by
    exact_mod_cast Nat.log2_self_le (Nat.ne_of_gt num)
  have numHigh : (r.num : ℚ) < 2 ^ (r.num.log2 + 1) := by exact_mod_cast Nat.lt_log2_self
  have denLow : (2 : ℚ) ^ r.den.log2 ≤ r.den := by
    exact_mod_cast Nat.log2_self_le (Nat.ne_of_gt den)
  have denHigh : (r.den : ℚ) < 2 ^ (r.den.log2 + 1) := by exact_mod_cast Nat.lt_log2_self
  have denPos : (0 : ℚ) < r.den := by exact_mod_cast den
  -- The exponents of two numbers tell that of their quotient up to one, which the guess allows for.
  refine leadingExponentFrom_eq (by decide) (value_pos num den) ?_ ?_
  next =>
    calc (2 : ℚ) ^ ((r.num.log2 : Int) - r.den.log2 - 1)
        = 2 ^ r.num.log2 / 2 ^ (r.den.log2 + 1) := by
          rw [sub_sub, zpow_sub₀ (by norm_num)]
          norm_cast
      _ ≤ r.num / r.den := div_le_div₀ (by positivity) numLow denPos denHigh.le
  next =>
    calc (r.num : ℚ) / r.den
        < 2 ^ (r.num.log2 + 1) / 2 ^ r.den.log2 := by
          exact div_lt_div₀ numHigh denLow (by positivity) (by positivity)
      _ = 2 ^ ((r.num.log2 : Int) - r.den.log2 + 1) := by
          rw [sub_add_eq_add_sub, zpow_sub₀ (by norm_num)]
          norm_cast

theorem nearestEven_congr {r s : Ratio} (denR : 0 < r.den) (denS : 0 < s.den)
    (same : r.value = s.value) : r.nearestEven = s.nearestEven := by
  have cross : r.num * s.den = s.num * r.den := by
    have nonzeroR : (r.den : ℚ) ≠ 0 := by positivity
    have nonzeroS : (s.den : ℚ) ≠ 0 := by positivity
    exact_mod_cast (div_eq_div_iff nonzeroR nonzeroS).1 same
  calc r.nearestEven
      = divNearestEven (r.num * s.den) (r.den * s.den) := (divNearestEven_mul _ _ _ denS).symm
    _ = divNearestEven (s.num * r.den) (s.den * r.den) := by rw [cross, Nat.mul_comm r.den]
    _ = s.nearestEven := divNearestEven_mul _ _ _ denR

theorem nearestEven_of_value_eq {r : Ratio} {n : Nat} (den : 0 < r.den) (same : r.value = n) :
    r.nearestEven = n := by
  rw [nearestEven_congr (s := ⟨n, 1⟩) den Nat.one_pos (by rw [same]; simp [value])]
  exact divNearestEven_one n

end Ratio

namespace Binary64

theorem nearestBits_congr {r s : Ratio} (denR : 0 < r.den) (denS : 0 < s.den)
    (same : r.value = s.value) : nearestBits r = nearestBits s := by
  have zero : r.num = 0 ↔ s.num = 0 := by
    rw [← Ratio.value_eq_zero_iff denR, ← Ratio.value_eq_zero_iff denS, same]
  unfold nearestBits
  by_cases zeroR : r.num = 0
  next => rw [if_pos zeroR, if_pos (zero.1 zeroR)]
  next =>
    have zeroS := mt zero.2 zeroR
    have place : r.log2 = s.log2 := by
      rw [Ratio.log2_eq (by omega) denR, Ratio.log2_eq (by omega) denS, same]
    have rounded (unit : Int) :
        (r.scaleDown 2 unit).nearestEven = (s.scaleDown 2 unit).nearestEven :=
      Ratio.nearestEven_congr (Ratio.den_scaleDown_pos _ denR (by decide))
        (Ratio.den_scaleDown_pos _ denS (by decide))
        (by rw [Ratio.value_scaleDown, Ratio.value_scaleDown, same])
    simp only [if_neg zeroR, if_neg zeroS, place, rounded]

theorem mantissa_pos {bits : Nat} (nonzero : bits ≠ 0) : 0 < mantissa bits := by
  unfold mantissa
  split
  next => omega
  next => exact Nat.add_pos_left (by decide) _

theorem den_magnitude_pos (bits : Nat) : 0 < (magnitude bits).den :=
  Ratio.den_scaleDown_pos _ Nat.one_pos (by decide)

theorem value_magnitude (bits : Nat) :
    (magnitude bits).value = mantissa bits * (2 : ℚ) ^ unit bits := by
  rw [magnitude, Ratio.value_scaleDown, zpow_neg, div_inv_eq_mul]
  simp [Ratio.value]

theorem value_magnitude_pos {bits : Nat} (nonzero : bits ≠ 0) : 0 < (magnitude bits).value := by
  have scale : (0 : ℚ) < 2 ^ unit bits := zpow_pos (by norm_num) _
  have full : (0 : ℚ) < mantissa bits := by exact_mod_cast mantissa_pos nonzero
  rw [value_magnitude]
  exact mul_pos full scale

theorem mantissa_lt (bits : Nat) : mantissa bits < 2 ^ 53 := by
  unfold mantissa exponentWeight
  split <;> omega

theorem mantissa_full_or_unit_least (bits : Nat) :
    2 ^ 52 ≤ mantissa bits ∨ unit bits = -1074 := by
  unfold mantissa unit exponentWeight
  split
  next => right; omega
  next => left; omega

theorem unit_le {bits : Nat} (finite : bits < infinityBits) : unit bits ≤ 971 := by
  simp only [infinityBits, exponentWeight, unit] at *
  omega

theorem least_le_unit (bits : Nat) : -1074 ≤ unit bits := by
  unfold unit
  omega

theorem bits_eq (bits : Nat) :
    (unit bits + 1074).toNat * exponentWeight + mantissa bits = bits := by
  unfold unit mantissa exponentWeight
  split <;> omega

theorem unit_eq {bits : Nat} (nonzero : bits ≠ 0) :
    max (Int.log 2 (magnitude bits).value - 52) (-1074) = unit bits := by
  have positive := value_magnitude_pos nonzero
  have scale : (0 : ℚ) < 2 ^ unit bits := zpow_pos (by norm_num) _
  have most : Int.log 2 (magnitude bits).value < 53 + unit bits := by
    have small : (mantissa bits : ℚ) < 2 ^ (53 : Int) := by exact_mod_cast mantissa_lt bits
    rw [← Int.lt_zpow_iff_log_lt (by decide) positive, value_magnitude, Nat.cast_ofNat,
      zpow_add₀ (by norm_num)]
    exact (mul_lt_mul_iff_left₀ scale).2 small
  have bound := least_le_unit bits
  -- Only the least unit goes with a mantissa that is not full.
  rcases mantissa_full_or_unit_least bits with full | least
  next =>
    have low : 52 + unit bits ≤ Int.log 2 (magnitude bits).value := by
      have large : 2 ^ (52 : Int) ≤ (mantissa bits : ℚ) := by exact_mod_cast full
      rw [← Int.zpow_le_iff_le_log (by decide) positive, value_magnitude, Nat.cast_ofNat,
        zpow_add₀ (by norm_num)]
      exact (mul_le_mul_iff_left₀ scale).2 large
    omega
  next => omega

theorem nearestBits_magnitude {bits : Nat} (finite : bits < infinityBits) :
    nearestBits (magnitude bits) = bits := by
  by_cases zero : bits = 0
  next =>
    subst zero
    rfl
  next =>
    have den := den_magnitude_pos bits
    have positive := value_magnitude_pos zero
    have num : (magnitude bits).num ≠ 0 :=
      fun noNum => positive.ne' ((Ratio.value_eq_zero_iff den).2 noNum)
    have rounded : ((magnitude bits).scaleDown 2 (unit bits)).nearestEven = mantissa bits := by
      apply Ratio.nearestEven_of_value_eq (Ratio.den_scaleDown_pos _ den (by decide))
      rw [Ratio.value_scaleDown, value_magnitude, Nat.cast_ofNat]
      exact mul_div_cancel_right₀ _ (zpow_ne_zero _ (by norm_num))
    unfold nearestBits
    rw [if_neg num, Ratio.log2_eq (Nat.pos_of_ne_zero num) den]
    simp only [unit_eq zero, rounded, bits_eq]
    omega

end Binary64

end Stencil.Number
