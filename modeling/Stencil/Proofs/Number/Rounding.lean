import Mathlib.Algebra.Order.Ring.Abs
import Stencil.Proofs.Number.Magnitude

set_option autoImplicit false

namespace Stencil.Number

/-- Whether no integer is nearer to a value, and of two equally near ones this is the even one. -/
structure IsNearestEven (value : ℚ) (k : Nat) : Prop where
  near : |value - k| ≤ 1 / 2
  even : |value - k| = 1 / 2 → Even k

theorem IsNearestEven.le {value : ℚ} {k l : Nat} (first : IsNearestEven value k)
    (second : IsNearestEven value l) : l ≤ k := by
  by_contra above
  obtain ⟨-, high⟩ := abs_le.1 first.near
  obtain ⟨low, -⟩ := abs_le.1 second.near
  -- Two integers as near as this are neighbours, and the value is in the middle between them.
  have apart : (k : ℚ) + 1 ≤ l := by exact_mod_cast Nat.lt_of_not_le above
  have middle : value - k = 1 / 2 := by linarith
  have neighbour : (l : ℚ) = k + 1 := by linarith
  have evenK : Even k := first.even (by rw [middle, abs_of_pos (by norm_num)])
  have evenL : Even l := second.even (by
    rw [neighbour, show value - ((k : ℚ) + 1) = -(1 / 2) by linarith, abs_neg,
      abs_of_pos (by norm_num)])
  have successor : l = k + 1 := by exact_mod_cast neighbour
  rw [successor] at evenL
  exact absurd evenK (Nat.even_add_one.1 evenL)

namespace Ratio

theorem value_eq_quotient_add (r : Ratio) (den : 0 < r.den) :
    r.value = (r.num / r.den : Nat) + (r.num % r.den : Nat) / (r.den : ℚ) := by
  have nonzero : (r.den : ℚ) ≠ 0 := by positivity
  have parts : (r.num : ℚ) = r.den * (r.num / r.den : Nat) + (r.num % r.den : Nat) := by
    exact_mod_cast (Nat.div_add_mod r.num r.den).symm
  rw [value, eq_comm, eq_div_iff nonzero, add_mul, div_mul_cancel₀ _ nonzero, parts]
  ring

theorem isNearestEven_nearestEven (r : Ratio) (den : 0 < r.den) :
    IsNearestEven r.value r.nearestEven := by
  have positive : (0 : ℚ) < r.den := by exact_mod_cast den
  have nonnegative : 0 ≤ (r.num % r.den : Nat) / (r.den : ℚ) := by positivity
  have small : (r.num % r.den : Nat) / (r.den : ℚ) < 1 := by
    rw [div_lt_one positive]
    exact_mod_cast Nat.mod_lt r.num den
  have belowHalf : 2 * (r.num % r.den) < r.den ↔ (r.num % r.den : Nat) / (r.den : ℚ) < 1 / 2 := by
    rw [div_lt_iff₀ positive, ← Nat.cast_lt (α := ℚ), Nat.cast_mul, Nat.cast_ofNat]
    constructor <;> intro <;> linarith
  have aboveHalf : r.den < 2 * (r.num % r.den) ↔ 1 / 2 < (r.num % r.den : Nat) / (r.den : ℚ) := by
    rw [lt_div_iff₀ positive, ← Nat.cast_lt (α := ℚ), Nat.cast_mul, Nat.cast_ofNat]
    constructor <;> intro <;> linarith
  have value := r.value_eq_quotient_add den
  simp only [nearestEven, divNearestEven, belowHalf, aboveHalf]
  generalize r.num / r.den = quotient at value ⊢
  generalize (r.num % r.den : Nat) / (r.den : ℚ) = rest at value nonnegative small ⊢
  split
  next below =>
    have off : |r.value - quotient| < 1 / 2 := by
      rw [value, add_sub_cancel_left, abs_of_nonneg nonnegative]
      exact below
    exact ⟨off.le, fun tie => absurd tie off.ne⟩
  next notBelow =>
    split
    next above =>
      have off : |r.value - (quotient + 1 : Nat)| < 1 / 2 := by
        rw [value, Nat.cast_add, Nat.cast_one, abs_lt]
        constructor <;> linarith
      exact ⟨off.le, fun tie => absurd tie off.ne⟩
    next notAbove =>
      have half : rest = 1 / 2 := le_antisymm (not_lt.1 notAbove) (not_lt.1 notBelow)
      have even : Even (quotient + quotient % 2) := by
        rw [Nat.even_iff]
        omega
      refine ⟨?_, fun _ => even⟩
      rw [value, half]
      rcases Nat.mod_two_eq_zero_or_one quotient with parity | parity <;> rw [parity] <;>
        norm_num [abs_le]

theorem isNearestEven_iff {r : Ratio} (den : 0 < r.den) {k : Nat} :
    IsNearestEven r.value k ↔ k = r.nearestEven := by
  have rounded := r.isNearestEven_nearestEven den
  constructor
  next => exact fun other => Nat.le_antisymm (rounded.le other) (other.le rounded)
  next =>
    rintro rfl
    exact rounded

end Ratio

end Stencil.Number
