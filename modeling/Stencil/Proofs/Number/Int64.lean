import Mathlib.Algebra.Ring.Int.Defs

set_option autoImplicit false

namespace Stencil

def InInt64 (x : Int) : Prop :=
  Int64.minValue.toInt ≤ x ∧ x ≤ Int64.maxValue.toInt

instance (x : Int) : Decidable (InInt64 x) :=
  inferInstanceAs (Decidable (_ ∧ _))

theorem inInt64_iff {x : Int} : InInt64 x ↔ -2 ^ 63 ≤ x ∧ x < 2 ^ 63 :=
  and_congr_right fun _ => Int.lt_add_one_iff.symm

theorem inInt64_toInt (n : Int64) : InInt64 n.toInt :=
  ⟨n.minValue_le_toInt, n.toInt_le⟩

theorem toInt_ofInt_of_inInt64 {x : Int} (inside : InInt64 x) : (Int64.ofInt x).toInt = x :=
  Int64.toInt_ofInt_of_le inside.1 (Int.lt_of_le_sub_one inside.2)

theorem inInt64_tdiv_iff {x y : Int64} (nonzero : y ≠ 0) :
    InInt64 (x.toInt.tdiv y.toInt) ↔ ¬ (x = Int64.minValue ∧ y = -1) := by
  constructor
  next =>
    rintro inside ⟨rfl, rfl⟩
    exact absurd inside (by decide)
  next =>
    intro fits
    have divisor : y.toInt ≠ 0 := fun zero => nonzero (Int64.toInt_inj.1 zero)
    obtain ⟨low, high⟩ := inInt64_iff.1 (inInt64_toInt x)
    rw [inInt64_iff]
    -- Only a divisor of one, of either sign, leaves the dividend as large as it is.
    by_cases one : y.toInt = 1
    next =>
      rw [one, Int.tdiv_one]
      exact ⟨low, high⟩
    by_cases minusOne : y.toInt = -1
    next =>
      have notLeast : x.toInt ≠ -2 ^ 63 := fun least =>
        fits ⟨Int64.toInt_inj.1 least, Int64.toInt_inj.1 minusOne⟩
      rw [minusOne, Int.tdiv_neg, Int.tdiv_one]
      omega
    have halved : (x.toInt.tdiv y.toInt).natAbs ≤ x.toInt.natAbs / 2 := by
      rw [Int.natAbs_tdiv]
      exact Nat.div_le_div_left (by omega) (by decide)
    omega

end Stencil
