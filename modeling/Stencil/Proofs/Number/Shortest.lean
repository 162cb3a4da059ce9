import Mathlib.Tactic.NormNum
import Stencil.Number.Decimal
import Stencil.Proofs.Number.Magnitude

set_option autoImplicit false

namespace Stencil.Number.Decimal

open Binary64 (infinityBits mantissa unit)

def value (d : Decimal) : ℚ :=
  d.coefficient * (10 : ℚ) ^ d.exponent

theorem value_eq_zero_iff (d : Decimal) : d.value = 0 ↔ d.coefficient = 0 := by
  have scale : (10 : ℚ) ^ d.exponent ≠ 0 := zpow_ne_zero _ (by norm_num)
  simp [value, scale]

theorem value_pos {d : Decimal} (nonzero : d.coefficient ≠ 0) : 0 < d.value := by
  have scale : (0 : ℚ) < 10 ^ d.exponent := zpow_pos (by norm_num) _
  have some : (0 : ℚ) < d.coefficient := by exact_mod_cast Nat.pos_of_ne_zero nonzero
  exact mul_pos some scale

theorem den_toRatio_pos (d : Decimal) : 0 < d.toRatio.den :=
  Ratio.den_scaleDown_pos _ Nat.one_pos (by decide)

theorem value_toRatio (d : Decimal) : d.toRatio.value = d.value := by
  rw [toRatio, Ratio.value_scaleDown, zpow_neg, div_inv_eq_mul]
  simp [Ratio.value, value]

theorem point_eq {d : Decimal} (nonzero : d.coefficient ≠ 0) :
    d.point = Int.log 10 d.value + 1 := by
  have positive := value_pos nonzero
  have scale : (0 : ℚ) < 10 ^ d.exponent := zpow_pos (by norm_num) _
  have some : 0 < d.digits.length := Nat.length_toDigits_pos
  have short (k : Nat) (later : 0 < k) : d.digits.length ≤ k ↔ d.coefficient < 10 ^ k :=
    Nat.length_toDigits_le_iff (by decide) later
  have most : Int.log 10 d.value < (d.digits.length : Int) + d.exponent := by
    have small : (d.coefficient : ℚ) < 10 ^ (d.digits.length : Int) := by
      exact_mod_cast (short _ some).1 le_rfl
    rw [← Int.lt_zpow_iff_log_lt (by decide) positive, Nat.cast_ofNat, zpow_add₀ (by norm_num)]
    exact (mul_lt_mul_iff_left₀ scale).2 small
  have least : (d.digits.length : Int) - 1 + d.exponent ≤ Int.log 10 d.value := by
    have large : (10 : ℚ) ^ ((d.digits.length : Int) - 1) ≤ d.coefficient := by
      by_cases single : d.digits.length = 1
      next =>
        rw [single, Nat.cast_one, sub_self, zpow_zero]
        exact_mod_cast Nat.pos_of_ne_zero nonzero
      next =>
        have full := mt (short (d.digits.length - 1) (by omega)).2 (by omega)
        have place : (d.digits.length : Int) - 1 = (d.digits.length - 1 : Nat) := by omega
        rw [place, zpow_natCast]
        exact_mod_cast Nat.le_of_not_lt full
    rw [← Int.zpow_le_iff_le_log (by decide) positive, Nat.cast_ofNat, zpow_add₀ (by norm_num)]
    exact (mul_le_mul_iff_left₀ scale).2 large
  unfold point
  omega

theorem toBits_congr {d e : Decimal} (same : d.value = e.value) : d.toBits = e.toBits := by
  have zero : d.coefficient = 0 ↔ e.coefficient = 0 := by
    rw [← value_eq_zero_iff, ← value_eq_zero_iff, same]
  by_cases nothing : d.coefficient = 0
  next => simp only [toBits, if_pos nothing, if_pos (zero.1 nothing)]
  next =>
    have something := mt zero.2 nothing
    have place : d.point = e.point := by rw [point_eq nothing, point_eq something, same]
    have nearest : Binary64.nearestBits d.toRatio = Binary64.nearestBits e.toRatio :=
      Binary64.nearestBits_congr (den_toRatio_pos d) (den_toRatio_pos e)
        (by rw [value_toRatio, value_toRatio, same])
    simp only [toBits, if_neg nothing, if_neg something, place, nearest]

theorem value_normalize (d : Decimal) : d.normalize.value = d.value := by
  fun_induction normalize d with
  | case1 d spare ih =>
    have whole : d.coefficient = d.coefficient / 10 * 10 := by omega
    rw [ih, value, value, whole, zpow_add_one₀ (by norm_num)]
    push_cast
    rw [← whole]
    ring
  | case2 => rfl

theorem value_exact (bits : Nat) : (exact bits).value = (Binary64.magnitude bits).value := by
  rw [Binary64.value_magnitude]
  simp only [exact]
  split
  next nonnegative =>
    obtain ⟨n, place⟩ := Int.eq_ofNat_of_zero_le nonnegative
    simp [value, place]
  next negative =>
    obtain ⟨n, place⟩ := Int.exists_eq_neg_ofNat (show unit bits ≤ 0 by omega)
    have ten : (10 : ℚ) ^ n = 2 ^ n * 5 ^ n := by rw [← mul_pow]; norm_num
    simp [value, place, ten]
    field_simp

theorem log_magnitude {bits : Nat} (nonzero : bits ≠ 0) (finite : bits < infinityBits) :
    -400 ≤ Int.log 10 (Binary64.magnitude bits).value ∧
      Int.log 10 (Binary64.magnitude bits).value < 400 := by
  have positive := Binary64.value_magnitude_pos nonzero
  have scale : (0 : ℚ) < 2 ^ unit bits := zpow_pos (by norm_num) _
  have some : (1 : ℚ) ≤ mantissa bits := by exact_mod_cast Binary64.mantissa_pos nonzero
  have small : (mantissa bits : ℚ) ≤ 2 ^ (53 : Int) := by
    exact_mod_cast (Binary64.mantissa_lt bits).le
  rw [← Int.zpow_le_iff_le_log (by decide) positive, ← Int.lt_zpow_iff_log_lt (by decide) positive,
    Binary64.value_magnitude, Nat.cast_ofNat]
  -- Ten is more than the third power of two, so 1074 binary places are less than 400 decimal ones.
  constructor
  next =>
    calc (10 : ℚ) ^ (-400 : Int)
        ≤ (2 ^ (3 : Int)) ^ (-400 : Int) := by
          rw [zpow_neg, zpow_neg]
          exact inv_anti₀ (zpow_pos (by norm_num) _)
            (zpow_le_zpow_left₀ (by norm_num) (by norm_num) (by norm_num))
      _ = 2 ^ (3 * -400 : Int) := (zpow_mul _ _ _).symm
      _ ≤ 2 ^ unit bits := by
          have := Binary64.least_le_unit bits
          exact zpow_le_zpow_right₀ (by norm_num) (by omega)
      _ ≤ mantissa bits * 2 ^ unit bits := le_mul_of_one_le_left scale.le some
  next =>
    calc (mantissa bits : ℚ) * 2 ^ unit bits
        ≤ 2 ^ (53 : Int) * 2 ^ unit bits := mul_le_mul_of_nonneg_right small scale.le
      _ = 2 ^ (53 + unit bits) := (zpow_add₀ (by norm_num) _ _).symm
      _ < 2 ^ (3 * 400 : Int) := by
          have := Binary64.unit_le finite
          exact zpow_lt_zpow_right₀ (by norm_num) (by omega)
      _ = (2 ^ (3 : Int)) ^ (400 : Int) := zpow_mul _ _ _
      _ ≤ 10 ^ (400 : Int) := zpow_le_zpow_left₀ (by norm_num) (by norm_num) (by norm_num)

theorem toBits_exact {bits : Nat} (finite : bits < infinityBits) : (exact bits).toBits = bits := by
  have nearest : Binary64.nearestBits (exact bits).toRatio = bits := by
    rw [Binary64.nearestBits_congr (den_toRatio_pos _) (Binary64.den_magnitude_pos bits)
      (by rw [value_toRatio, value_exact]), Binary64.nearestBits_magnitude finite]
  have zero : (exact bits).coefficient = 0 ↔ bits = 0 := by
    rw [← value_eq_zero_iff, value_exact]
    constructor
    next =>
      intro nothing
      by_contra nonzero
      exact (Binary64.value_magnitude_pos nonzero).ne' nothing
    next =>
      rintro rfl
      simp [Binary64.value_magnitude, mantissa]
  unfold toBits
  by_cases nothing : bits = 0
  next => rw [if_pos (zero.2 nothing), nothing]
  next =>
    have nonzero := mt zero.1 nothing
    obtain ⟨low, high⟩ := log_magnitude nothing finite
    rw [← value_exact] at low high
    rw [if_neg nonzero, point_eq nonzero, if_neg (by omega), if_neg (by omega), nearest]

theorem toBits_of_readingBackAt {bits : Nat} {exponent : Int} {d : Decimal}
    (found : readingBackAt bits exponent = some d) : d.toBits = bits := by
  simp only [readingBackAt] at found
  split at found
  next below above =>
    split at found <;> cases found
    next => exact of_decide_eq_true below
    next => exact of_decide_eq_true above
  next below _ =>
    cases found
    exact of_decide_eq_true below
  next _ above =>
    cases found
    exact of_decide_eq_true above
  next => cases found

theorem toBits_shortest {bits : Nat} (finite : bits < infinityBits) :
    (shortest bits).toBits = bits := by
  unfold shortest
  split
  next zero =>
    subst zero
    rfl
  next =>
    rw [toBits_congr (value_normalize _)]
    simp only [Option.getD]
    -- What the search finds was tried; without a find the exact digits are taken.
    split
    next d found =>
      obtain ⟨n, -, found⟩ := List.exists_of_findSome?_eq_some found
      exact toBits_of_readingBackAt found
    next => exact toBits_exact finite

end Stencil.Number.Decimal
