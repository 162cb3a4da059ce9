import Mathlib
import Stencil.Number.Binary64

set_option autoImplicit false

namespace Stencil.Number

open Binary64 (exponentWeight)
open Float.Model (Format)
open Float.Model.UnpackedFloat

abbrev Word := BitVec Format.binary64.numBits

theorem toBitVec_ofBitVec (sign : BitVec 1) : (Sign.ofBitVec sign).toBitVec = sign := by
  rcases BitVec.eq_zero_or_eq_one sign with rfl | rfl <;> rfl

theorem packComponents_of_unpack {word : Word} {exponent : BitVec Format.binary64.exponentBits}
    {mantissa : BitVec Format.binary64.mantissaBitsWithoutImplicit}
    (exponentOf : unpackExponent word = exponent) (mantissaOf : unpackMantissa word = mantissa) :
    packComponents Format.binary64 (Sign.ofBitVec (unpackSign word)) exponent mantissa = word := by
  subst exponentOf mantissaOf
  rw [packComponents, toBitVec_ofBitVec]
  apply BitVec.eq_of_getLsbD_eq
  intro i inside
  simp only [BitVec.getLsbD_append, unpackMantissa, unpackExponent, unpackSign, BitVec.getLsbD_cast,
    BitVec.getLsbD_extractLsb]
  grind

theorem pack_subnormal (sign : Sign) (m : Nat) (exponent : Int) (positive : 0 < m)
    (small : m < exponentWeight) (least : exponent = -1074) :
    pack Format.binary64 (.finite sign m exponent positive) =
      packComponents Format.binary64 sign 0#_ (BitVec.ofNat _ m) := by
  have short : m.log2 < 52 := (Nat.log2_lt (Nat.ne_of_gt positive)).2 small
  have width : ¬ m.log2 + 1 = Format.binary64.mantissaBits := by
    change ¬ m.log2 + 1 = 53
    omega
  subst least
  simp only [pack]
  rw [if_neg (by decide), if_neg width]

theorem pack_normal (sign : Sign) (m biased : Nat) (exponent : Int) (positive : 0 < m)
    (large : exponentWeight ≤ m) (small : m < 2 * exponentWeight) (finite : biased < 2047)
    (place : exponent = biased - 1075) :
    pack Format.binary64 (.finite sign m exponent positive) =
      packComponents Format.binary64 sign (BitVec.ofNat _ biased) (BitVec.ofNat _ m) := by
  have nonzero : m ≠ 0 := Nat.ne_of_gt positive
  have width : m.log2 + 1 = Format.binary64.mantissaBits := by
    have least := (Nat.le_log2 nonzero).2 (show 2 ^ 52 ≤ m from large)
    have most := (Nat.log2_lt nonzero).2 (show m < 2 ^ 53 from small)
    change m.log2 + 1 = 53
    omega
  have stored : (exponent + Format.binary64.exponentBias +
      Format.binary64.mantissaBitsWithoutImplicit).toNat = biased := by
    change (exponent + (1023 : Int) + (52 : Int)).toNat = biased
    omega
  have bounded : ¬ 2 ^ Format.binary64.exponentBits ≤ biased + 1 := by
    change ¬ 2048 ≤ biased + 1
    omega
  simp only [pack, stored]
  rw [if_neg bounded, if_pos width]

theorem toNat_implicit_append (mantissa : BitVec Format.binary64.mantissaBitsWithoutImplicit) :
    (1#1 ++ mantissa).toNat = exponentWeight + mantissa.toNat := by
  have small : mantissa.toNat < 2 ^ 52 := mantissa.isLt
  rw [BitVec.toNat_append, ← Nat.shiftLeft_add_eq_or_of_lt small, Nat.shiftLeft_eq]
  simp [exponentWeight]

theorem pack_unpack {word : Word} (valid : Format.binary64.Valid word) :
    pack Format.binary64 (Float.Model.UnpackedFloat.unpack Format.binary64 word) = word := by
  have small : (unpackMantissa word).toNat < exponentWeight := (unpackMantissa word).isLt
  have biased : (unpackExponent word).toNat < 2048 := (unpackExponent word).isLt
  simp only [Float.Model.UnpackedFloat.unpack]
  -- The exponent of ones only belongs to the infinities and to the one NaN that is allowed.
  split
  next exponentOf =>
    split
    next mantissaOf => exact packComponents_of_unpack exponentOf mantissaOf
    next mantissaOf => exact (valid.eq_packedNaN exponentOf mantissaOf).symm
  next notLast =>
    split
    next exponentOf =>
      split
      next mantissaOf => exact packComponents_of_unpack exponentOf mantissaOf
      next mantissaOf =>
        rw [pack_subnormal _ _ _ _ small (by rw [exponentOf]; rfl)]
        exact packComponents_of_unpack exponentOf (by simp)
    -- Packing drops the implicit bit that unpacking has put in front.
    next exponentOf =>
      have finite : (unpackExponent word).toNat ≠ 2047 :=
        fun allOnes => notLast (BitVec.eq_of_toNat_eq allOnes)
      have whole := toNat_implicit_append (unpackMantissa word)
      refine (pack_normal _ _ (unpackExponent word).toNat _ _ ?_ ?_ ?_ rfl).trans
        (packComponents_of_unpack (by simp) (BitVec.eq_of_toNat_eq ?_))
      next => omega
      next => omega
      next => omega
      next =>
        rw [BitVec.toNat_ofNat, whole]
        simp only [exponentWeight] at small ⊢
        omega

theorem ofBits_toBits (x : Float) : Float.ofBits x.toBits = x := by
  obtain ⟨⟨bits, valid⟩⟩ := x
  simp only [Float.ofBits, Float.toBits, Float.Model.ofBits, Float.Model.pack, pack_unpack valid]

theorem ofMagnitude_magnitudeBits (x : Float) :
    Binary64.ofMagnitude (Binary64.isNegative x) (Binary64.magnitudeBits x) = x := by
  have bits : (if Binary64.isNegative x then Binary64.signWeight + Binary64.magnitudeBits x
      else Binary64.magnitudeBits x) = x.toBits.toNat := by
    have bounded := x.toBits.toNat_lt
    by_cases negative : Binary64.signWeight ≤ x.toBits.toNat <;>
      simp only [Binary64.isNegative, Binary64.magnitudeBits, negative, decide_true, decide_false,
        if_true, Bool.false_eq_true, if_false] <;>
      simp only [Binary64.signWeight] at negative ⊢ <;> omega
  rw [Binary64.ofMagnitude, bits, UInt64.ofNat_toNat, ofBits_toBits]

end Stencil.Number
