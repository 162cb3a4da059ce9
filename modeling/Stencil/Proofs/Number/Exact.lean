import Stencil.Proofs.Number.Bits
import Stencil.Proofs.Number.Magnitude

set_option autoImplicit false

namespace Stencil.Number

open Binary64 (exponentWeight signWeight infinityBits magnitudeBits)
open Float.Model (Format UnpackedFloat)
open Float.Model.UnpackedFloat

def unpackedValue : UnpackedFloat → ℚ
  | .finite sign mantissa exponent _ => sign.apply mantissa * 2 ^ exponent
  | _ => 0

def exactValue (x : Float) : ℚ :=
  unpackedValue x.toModel.unpack

theorem toNat_unpackExponent (word : Word) :
    (unpackExponent word).toNat = word.toNat % signWeight / exponentWeight := by
  have place : (unpackExponent word).toNat = word.toNat / 2 ^ 52 % 2 ^ 11 := by
    simp only [unpackExponent, BitVec.toNat_cast, BitVec.extractLsb_toNat,
      Nat.shiftRight_eq_div_pow]
  rw [place]
  simp only [signWeight, exponentWeight]
  omega

theorem toNat_unpackMantissa (word : Word) :
    (unpackMantissa word).toNat = word.toNat % signWeight % exponentWeight := by
  have place : (unpackMantissa word).toNat = word.toNat % 2 ^ 52 := by
    simp [unpackMantissa, BitVec.extractLsb_toNat]
  rw [place]
  simp only [signWeight, exponentWeight]
  omega

theorem abs_unpackedValue_finite (sign : Sign) {mantissa : Nat} (exponent : Int)
    (positive : 0 < mantissa) :
    |unpackedValue (.finite sign mantissa exponent positive)| = mantissa * 2 ^ exponent := by
  have applied : |(sign.apply mantissa : ℚ)| = mantissa := by
    cases sign <;> simp [Sign.apply]
  rw [unpackedValue, abs_mul, applied, abs_of_pos (zpow_pos (by norm_num) exponent)]

theorem unpackExponent_ne_of_finite {word : Word}
    (finite : word.toNat % signWeight < infinityBits) : unpackExponent word ≠ -1#_ := by
  intro last
  have biased : (unpackExponent word).toNat = 2047 := by rw [last]; rfl
  have exponentOf := toNat_unpackExponent word
  simp only [infinityBits, exponentWeight] at finite exponentOf
  omega

theorem unpack_ne_infinity {word : Word} (finite : word.toNat % signWeight < infinityBits)
    (sign : Sign) :
    Float.Model.UnpackedFloat.unpack Format.binary64 word ≠ .infinity sign := by
  simp only [Float.Model.UnpackedFloat.unpack, if_neg (unpackExponent_ne_of_finite finite)]
  split
  next => split <;> nofun
  next => nofun

theorem abs_unpackedValue_unpack {word : Word} (finite : word.toNat % signWeight < infinityBits) :
    |unpackedValue (Float.Model.UnpackedFloat.unpack Format.binary64 word)| =
      (Binary64.magnitude (word.toNat % signWeight)).value := by
  have exponentOf := toNat_unpackExponent word
  have mantissaOf := toNat_unpackMantissa word
  rw [Binary64.value_magnitude, Binary64.mantissa, Binary64.unit, ← exponentOf, ← mantissaOf]
  simp only [Float.Model.UnpackedFloat.unpack, if_neg (unpackExponent_ne_of_finite finite)]
  split
  next first =>
    have biased : (unpackExponent word).toNat = 0 := by rw [first]; rfl
    have subnormal : word.toNat % signWeight = (unpackMantissa word).toNat := by
      simp only [exponentWeight] at exponentOf mantissaOf
      omega
    rw [biased, if_pos rfl, subnormal]
    split
    next zero => simp [zero, unpackedValue]
    next nonzero => exact abs_unpackedValue_finite _ _ _
  next notFirst =>
    have biased : (unpackExponent word).toNat ≠ 0 := fun zero =>
      notFirst (BitVec.eq_of_toNat_eq zero)
    rw [if_neg biased, abs_unpackedValue_finite, toNat_implicit_append]
    congr 2
    change ((unpackExponent word).toNat : Int) - (1023 + 52 : Int) = _
    omega

theorem abs_exactValue {x : Float} (finite : Binary64.isFinite x = true) :
    |exactValue x| = (Binary64.magnitude (magnitudeBits x)).value :=
  abs_unpackedValue_unpack (of_decide_eq_true finite)

theorem lt_zero_iff {x : Float} (finite : Binary64.isFinite x = true) :
    x < 0 ↔ exactValue x < 0 := by
  have compared : x < 0 ↔ x.toModel.unpack.lt (.zero .positive) = true := by
    have zero : (Float.toModel 0).unpack = .zero .positive := rfl
    rw [← zero]
    exact decide_eq_true_iff
  have bounded : ∀ sign, x.toModel.unpack ≠ .infinity sign :=
    unpack_ne_infinity (of_decide_eq_true finite)
  rw [compared, exactValue]
  generalize x.toModel.unpack = unpacked at bounded ⊢
  cases unpacked with
  | infinity sign => exact absurd rfl (bounded sign)
  | notANumber => exact iff_of_false Bool.false_ne_true (lt_irrefl _)
  | zero sign => exact iff_of_false Bool.false_ne_true (lt_irrefl _)
  | finite sign mantissa exponent positive =>
    have size : (0 : ℚ) < mantissa * 2 ^ exponent := by positivity
    cases sign with
    | negative => exact iff_of_true rfl (by simpa [unpackedValue, Sign.apply] using size)
    | positive =>
      refine iff_of_false Bool.false_ne_true (not_lt.2 ?_)
      simpa [unpackedValue, Sign.apply] using size.le

end Stencil.Number
