import Stencil.Text.Blank
import Stencil.Text.Identifier

set_option autoImplicit false

namespace Stencil.Text

theorem Ranges.forall_of_holds {ranges : Ranges} (property : Nat → Prop)
    (check : ∀ range ∈ ranges, ∀ k < range.2 + 1 - range.1, property (range.1 + k)) {point : Nat}
    (inside : ranges.holds point = true) : property point := by
  obtain ⟨range, member, low, high⟩ := exists_of_holds inside
  have checked := check range member (point - range.1) (by omega)
  rwa [Nat.add_sub_cancel' low] at checked

theorem isBlank_eq_false_of_isNameCharacter {c : Char} (name : isNameCharacter c = true) :
    isBlank c = false := by
  refine Bool.eq_false_iff.2 fun blank => ?_
  have outside : alphabeticRanges.holds c.toNat = false ∧ numericRanges.holds c.toNat = false ∧
      c.toNat ≠ '_'.toNat :=
    Ranges.forall_of_holds (fun point => alphabeticRanges.holds point = false ∧
      numericRanges.holds point = false ∧ point ≠ '_'.toNat) (by decide +kernel) blank
  have underscore : c ≠ '_' := fun same => outside.2.2 (congrArg Char.toNat same)
  simp [isNameCharacter, isAlphabetic, isNumeric, outside, underscore] at name

theorem forall_of_isDigit (property : Nat → Prop) (check : ∀ k < 10, property ('0'.toNat + k))
    {c : Char} (digit : c.isDigit = true) : property c.toNat := by
  obtain ⟨low, high⟩ := Char.isDigit_iff_toNat.1 digit
  have last : '9'.toNat = '0'.toNat + 9 := rfl
  have checked := check (c.toNat - '0'.toNat) (by omega)
  rwa [Nat.add_sub_cancel' low] at checked

theorem isBlank_eq_false_of_isDigit {c : Char} (digit : c.isDigit = true) : isBlank c = false :=
  forall_of_isDigit (fun point => blankRanges.holds point = false) (by decide) digit

theorem isAlphabetic_eq_false_of_isDigit {c : Char} (digit : c.isDigit = true) :
    isAlphabetic c = false :=
  forall_of_isDigit (fun point => alphabeticRanges.holds point = false)
    (by decide +kernel) digit

theorem isNameCharacter_of_isAlphabetic {c : Char} (letter : isAlphabetic c = true) :
    isNameCharacter c = true := by
  simp [isNameCharacter, letter]

theorem isIdentifier_iff {name : List Char} :
    isIdentifier name = true ↔
      ∃ c rest, name = c :: rest ∧ isAlphabetic c = true ∧
        ∀ d ∈ rest, isNameCharacter d = true := by
  cases name with
  | nil => simp [isIdentifier]
  | cons c rest => simp [isIdentifier, and_assoc]

theorem isNameCharacter_of_mem {name : List Char} (identifier : isIdentifier name = true) :
    ∀ c ∈ name, isNameCharacter c = true := by
  obtain ⟨c, rest, rfl, letter, names⟩ := isIdentifier_iff.1 identifier
  rw [List.forall_mem_cons]
  exact ⟨isNameCharacter_of_isAlphabetic letter, names⟩

end Stencil.Text
