import Stencil.Proofs.DecimalPattern.Printing
import Stencil.Proofs.DecimalPattern.Reading
import Stencil.Proofs.Number.Exact
import Stencil.Proofs.Number.Rounding

set_option autoImplicit false

namespace Stencil

open Number

theorem Numeral.value_of_readDecimal? (numeral : Numeral) :
    (readDecimal? (numeral.text none)).map Decimal.value = some numeral.value := by
  rw [numeral.readDecimal?_text, Option.map_some, Decimal.value, Numeral.value, zpow_neg,
    zpow_natCast]
  rfl

namespace DecimalPattern

theorem isNearestEven_units (pattern : DecimalPattern) {x : Float}
    (finite : Binary64.isFinite x = true) :
    IsNearestEven (|exactValue x| * 10 ^ pattern.maxFraction)
      (pattern.units (Binary64.magnitudeBits x)) := by
  have den := Ratio.den_scaleDown_pos (-(pattern.maxFraction : Int))
    (Binary64.den_magnitude_pos (Binary64.magnitudeBits x)) (by decide : 0 < 10)
  have rounded := (Ratio.isNearestEven_iff den).2 rfl
  rw [Ratio.value_scaleDown, ← abs_exactValue finite, zpow_neg, zpow_natCast, div_inv_eq_mul]
    at rounded
  exact rounded

theorem format_of_finite (pattern : DecimalPattern) {x : Float}
    (finite : Binary64.isFinite x = true) :
    pattern.format x =
      (if x < 0 then ['-'] else []) ++ pattern.before ++
        pattern.numberText (pattern.units (Binary64.magnitudeBits x)) ++ pattern.after := by
  rw [format, if_pos (of_decide_eq_true finite)]

/-- A pattern that was read from a text writes a finite double so: a minus sign if it is below zero,
what the text has before its symbols, a number, and what the text has after them. Without its commas
the number reads as the exact value of the double without its sign, rounded to as many places as
there are symbols in the fraction of the text, ties to even, and no other number of that value has
the digits that the text asks for. -/
theorem format_rounds_exactly {text : List Char} {pattern : DecimalPattern}
    (parsed : parse? text = some pattern) :
    ∃ integer fraction, Describes text integer fraction pattern ∧
      ∀ x, Binary64.isFinite x = true → ∃ numeral : Numeral,
        let number := numeral.text pattern.grouping
        pattern.format x =
          (if exactValue x < 0 then ['-'] else []) ++ pattern.before ++ number ++ pattern.after ∧
        (readDecimal? (number.filter (· != ','))).map Decimal.value = some numeral.value ∧
        (∃ k, IsNearestEven (|exactValue x| * 10 ^ fraction.length) k ∧
          numeral.value = k / 10 ^ fraction.length) ∧
        numeral.Fits pattern ∧
        (∀ other : Numeral, other.Fits pattern → other.value = numeral.value → other = numeral) ∧
        ('.' ∈ number ↔ numeral.fraction ≠ []) ∧
        number ≠ [] := by
  obtain ⟨integer, fraction, describes⟩ := describes_of_parse? parsed
  refine ⟨integer, fraction, describes, fun x finite => ?_⟩
  have ordered : pattern.minFraction ≤ pattern.maxFraction := by
    rw [describes.minFraction, describes.maxFraction]
    exact List.count_le_length
  obtain ⟨numeral, written, value, fits⟩ :=
    pattern.exists_numeral ordered (pattern.units (Binary64.magnitudeBits x))
  have rounded := pattern.isNearestEven_units finite
  rw [describes.maxFraction] at value rounded
  refine ⟨numeral, ?_, ?_, ⟨_, rounded, value⟩, fits, fun _ => fits.eq,
    numeral.point_mem_text_iff _, numeral.text_ne_nil _⟩
  next => simp only [pattern.format_of_finite finite, written, lt_zero_iff finite]
  next =>
    rw [numeral.filter_text]
    exact numeral.value_of_readDecimal?

theorem format_rounds_exactly_of_tie :
    let x : Float := -1234567.0625
    ∃ pattern, parse? "≈#,##0.0## €;-".toList = some pattern ∧
      pattern.format x = "-≈1,234,567.062 €".toList ∧
      IsNearestEven (|exactValue x| * 10 ^ 3) 1234567062 := by
  intro x
  have parsed : parse? "≈#,##0.0## €;-".toList =
    some ⟨['≈'], " €".toList, 1, some 3, 1, 3⟩ := by decide +kernel
  have finite : Binary64.isFinite x = true := by decide +kernel
  have negative : x < 0 := by decide +kernel
  have written : format ⟨['≈'], " €".toList, 1, some 3, 1, 3⟩ x = "-≈1,234,567.062 €".toList := by
    decide +kernel
  obtain ⟨integer, fraction, describes, prints⟩ := format_rounds_exactly parsed
  obtain ⟨numeral, form, read, ⟨k, rounded, value⟩, -⟩ := prints x finite
  have number : numeral.text (some 3) = "1,234,567.062".toList := by
    rw [written, if_pos ((lt_zero_iff finite).1 negative)] at form
    have spelled : ['-', '≈'] ++ "1,234,567.062".toList ++ " €".toList =
        ['-', '≈'] ++ numeral.text (some 3) ++ " €".toList := form
    exact (List.append_cancel_left (List.append_cancel_right spelled)).symm
  have places : fraction.length = 3 := describes.maxFraction.symm
  have digits : readDecimal? ("1,234,567.062".toList.filter (· != ',')) =
      some ⟨1234567062, -3⟩ := by decide +kernel
  simp only [number, digits, value, places, Option.map_some, Option.some_inj, Decimal.value]
    at read rounded
  have count : k = 1234567062 := by
    have scaled : (k : ℚ) = 1234567062 := by linarith
    exact_mod_cast scaled
  exact ⟨_, parsed, written, count ▸ rounded⟩

end DecimalPattern

end Stencil
