import Stencil.DecimalPattern
import Stencil.Proofs.Number.RoundTrip

set_option autoImplicit false

namespace Stencil

open Number (digitsValue)

def markedFrom (start : Nat) (marked : Nat → Prop) [DecidablePred marked] (digits : List Char) :
    List Char :=
  (digits.zipIdx start).flatMap fun place =>
    if marked place.2 then [',', place.1] else [place.1]

def withCommas (size : Nat) (digits : List Char) : List Char :=
  markedFrom 0 (fun i => 0 < i ∧ size ∣ digits.length - i) digits

@[ext]
structure Numeral where
  integer : List Char
  fraction : List Char
  digits : ∀ c ∈ integer ++ fraction, c.isDigit = true
  nonempty : integer ++ fraction ≠ []

namespace Numeral

def value (numeral : Numeral) : ℚ :=
  digitsValue (numeral.integer ++ numeral.fraction) / 10 ^ numeral.fraction.length

def text (numeral : Numeral) (grouping : Option Nat) : List Char :=
  grouping.elim numeral.integer (withCommas · numeral.integer) ++
    if numeral.fraction = [] then [] else '.' :: numeral.fraction

/-- Whether a number has as many digits as a pattern asks for, and no zero at either end but to have
that many, or to be a number at all. -/
structure Fits (pattern : DecimalPattern) (numeral : Numeral) : Prop where
  leastInteger : pattern.minInteger ≤ numeral.integer.length
  leading : numeral.integer.head? = some '0' →
    numeral.integer.length = pattern.minInteger ∨
      numeral.integer = ['0'] ∧ numeral.fraction = []
  leastFraction : pattern.minFraction ≤ numeral.fraction.length
  mostFraction : numeral.fraction.length ≤ pattern.maxFraction
  trailing : numeral.fraction.getLast? = some '0' →
    numeral.fraction.length = pattern.minFraction

end Numeral

section

variable {marked : Nat → Prop} [DecidablePred marked]

theorem markedFrom_cons (start : Nat) (c : Char) (rest : List Char) :
    markedFrom start marked (c :: rest) =
      (if marked start then [',', c] else [c]) ++ markedFrom (start + 1) marked rest := by
  simp [markedFrom, List.zipIdx_cons]

theorem filter_markedFrom (start : Nat) (digits : List Char) :
    (markedFrom start marked digits).filter (· != ',') = digits.filter (· != ',') := by
  induction digits generalizing start with
  | nil => rfl
  | cons c rest ih =>
    have first : (if marked start then [',', c] else [c]).filter (· != ',') =
        [c].filter (· != ',') := by split <;> rfl
    rw [markedFrom_cons, List.filter_append, ih, first, ← List.filter_append]
    rfl

end

namespace Numeral

theorem ne_of_mem {numeral : Numeral} {c other : Char} (isOther : other.isDigit = false)
    (member : c ∈ numeral.integer ++ numeral.fraction) : c ≠ other :=
  Number.ne_of_isDigit (numeral.digits c member) isOther

theorem filter_text (numeral : Numeral) (grouping : Option Nat) :
    (numeral.text grouping).filter (· != ',') = numeral.text none := by
  have integer : numeral.integer.filter (· != ',') = numeral.integer :=
    List.filter_eq_self.2 fun c member =>
      bne_iff_ne.2 (ne_of_mem rfl (List.mem_append_left _ member))
  have fraction : numeral.fraction.filter (· != ',') = numeral.fraction :=
    List.filter_eq_self.2 fun c member =>
      bne_iff_ne.2 (ne_of_mem rfl (List.mem_append_right _ member))
  have grouped : (grouping.elim numeral.integer (withCommas · numeral.integer)).filter (· != ',') =
      numeral.integer := by
    cases grouping with
    | none => exact integer
    | some size => rw [Option.elim_some, withCommas, filter_markedFrom, integer]
  rw [text, List.filter_append, grouped, text]
  congr 1
  split
  next => rfl
  next => exact congrArg ('.' :: ·) fraction

theorem text_ne_nil (numeral : Numeral) (grouping : Option Nat) : numeral.text grouping ≠ [] := by
  intro empty
  have plain : numeral.text none = [] := by
    rw [← numeral.filter_text grouping, empty]
    rfl
  rw [text, Option.elim_none, List.append_eq_nil_iff] at plain
  obtain ⟨noInteger, rest⟩ := plain
  split at rest
  next noFraction => exact numeral.nonempty (List.append_eq_nil_iff.2 ⟨noInteger, noFraction⟩)
  next => cases rest

theorem point_mem_text_iff (numeral : Numeral) (grouping : Option Nat) :
    '.' ∈ numeral.text grouping ↔ numeral.fraction ≠ [] := by
  have plain : '.' ∈ numeral.text grouping ↔ '.' ∈ numeral.text none := by
    rw [← numeral.filter_text grouping, List.mem_filter]
    simp
  have noPoint : '.' ∉ numeral.integer := fun member =>
    ne_of_mem rfl (List.mem_append_left numeral.fraction member) rfl
  rw [plain, text]
  by_cases none : numeral.fraction = [] <;> simp [none, noPoint]

theorem readDecimal?_text (numeral : Numeral) :
    Number.readDecimal? (numeral.text none) =
      some ⟨digitsValue (numeral.integer ++ numeral.fraction), -numeral.fraction.length⟩ := by
  obtain ⟨whole, part⟩ := List.forall_mem_append.1 numeral.digits
  have nonempty := numeral.nonempty
  rw [text, Option.elim_none]
  split
  next none =>
    rw [none, List.append_nil] at nonempty
    rw [Number.readDecimal?_whole [] whole nonempty nofun, none, List.append_nil]
    rfl
  next some =>
    obtain ⟨wholeIs, pointIs⟩ := Number.span_isDigit ('.' :: numeral.fraction) whole (by simp)
    obtain ⟨partIs, nothing⟩ := Number.span_isDigit [] part nofun
    rw [List.append_nil] at partIs nothing
    simp [Number.readDecimal?, wholeIs, pointIs, partIs, nothing, some, Number.readExponent?]

variable {pattern : DecimalPattern} {numeral other : Numeral}

def paddedFraction (pattern : DecimalPattern) (numeral : Numeral) : List Char :=
  numeral.fraction ++ List.replicate (pattern.maxFraction - numeral.fraction.length) '0'

theorem Fits.length_paddedFraction (fits : numeral.Fits pattern) :
    (numeral.paddedFraction pattern).length = pattern.maxFraction := by
  have most := fits.mostFraction
  rw [paddedFraction, List.length_append, List.length_replicate]
  omega

theorem digits_paddedFraction (pattern : DecimalPattern) (numeral : Numeral) :
    ∀ c ∈ numeral.paddedFraction pattern, c.isDigit = true :=
  List.forall_mem_append.2 ⟨(List.forall_mem_append.1 numeral.digits).2,
    fun _ member => Number.isDigit_of_mem_zeros member⟩

theorem Fits.value_eq (fits : numeral.Fits pattern) :
    numeral.value * 10 ^ pattern.maxFraction =
      (digitsValue numeral.integer * 10 ^ pattern.maxFraction +
        digitsValue (numeral.paddedFraction pattern) : Nat) := by
  have whole := Number.digitsValue_append numeral.integer (numeral.paddedFraction pattern)
  rw [fits.length_paddedFraction, paddedFraction, ← List.append_assoc,
    Number.digitsValue_append_zeros, ← paddedFraction] at whole
  have scale : (10 : ℚ) ^ pattern.maxFraction = 10 ^ numeral.fraction.length *
      10 ^ (pattern.maxFraction - numeral.fraction.length) := by
    rw [← pow_add, Nat.add_sub_cancel' fits.mostFraction]
  rw [← whole, value, scale]
  push_cast
  field_simp

theorem Fits.parts_eq (fits : numeral.Fits pattern) (otherFits : other.Fits pattern)
    (same : other.value = numeral.value) :
    digitsValue other.integer = digitsValue numeral.integer ∧
      other.paddedFraction pattern = numeral.paddedFraction pattern := by
  have count : digitsValue other.integer * 10 ^ pattern.maxFraction +
        digitsValue (other.paddedFraction pattern) =
      digitsValue numeral.integer * 10 ^ pattern.maxFraction +
        digitsValue (numeral.paddedFraction pattern) := by
    have scaled := otherFits.value_eq
    rw [same, fits.value_eq] at scaled
    exact_mod_cast scaled.symm
  have small := Number.digitsValue_lt (numeral.digits_paddedFraction pattern)
  have smallOther := Number.digitsValue_lt (other.digits_paddedFraction pattern)
  rw [fits.length_paddedFraction] at small
  rw [otherFits.length_paddedFraction] at smallOther
  have parts {n whole part : Nat} (sum : whole * 10 ^ pattern.maxFraction + part = n)
      (below : part < 10 ^ pattern.maxFraction) :
      n / 10 ^ pattern.maxFraction = whole ∧ n % 10 ^ pattern.maxFraction = part :=
    (Nat.div_mod_unique (Nat.pow_pos (by decide))).2
      ⟨by rw [Nat.add_comm, Nat.mul_comm, sum], below⟩
  obtain ⟨whole, part⟩ := parts rfl small
  obtain ⟨wholeOther, partOther⟩ := parts count smallOther
  refine ⟨wholeOther.symm.trans whole, ?_⟩
  exact Number.eq_of_digitsValue_eq (other.digits_paddedFraction pattern)
    (numeral.digits_paddedFraction pattern)
    (otherFits.length_paddedFraction.trans fits.length_paddedFraction.symm)
    (partOther.symm.trans part)

theorem Fits.length_fraction_le (fits : numeral.Fits pattern) (otherFits : other.Fits pattern)
    (same : other.paddedFraction pattern = numeral.paddedFraction pattern) :
    other.fraction.length ≤ numeral.fraction.length := by
  by_contra longer
  -- The digits that only the longer fraction has are zeros.
  have reaches : other.fraction = numeral.fraction ++
      List.replicate (other.fraction.length - numeral.fraction.length) '0' := by
    have taken := congrArg (List.take other.fraction.length) same
    rw [paddedFraction, paddedFraction, List.take_left, List.take_append,
      List.take_of_length_le (by omega), List.take_replicate] at taken
    have most := otherFits.mostFraction
    rwa [Nat.min_eq_left (by omega)] at taken
  have zero : other.fraction.getLast? = some '0' := by
    rw [reaches, List.getLast?_append, List.getLast?_replicate, if_neg (by omega)]
    rfl
  have width := otherFits.trailing zero
  have least := fits.leastFraction
  omega

theorem Fits.length_integer_le (fits : numeral.Fits pattern) (otherFits : other.Fits pattern)
    (whole : digitsValue other.integer = digitsValue numeral.integer)
    (fraction : other.fraction = numeral.fraction) :
    other.integer.length ≤ numeral.integer.length := by
  by_contra longer
  have digits := (List.forall_mem_append.1 numeral.digits).1
  have reaches : other.integer =
      List.replicate (other.integer.length - numeral.integer.length) '0' ++ numeral.integer :=
    Number.eq_of_digitsValue_eq (List.forall_mem_append.1 other.digits).1
      (List.forall_mem_append.2 ⟨fun _ member => Number.isDigit_of_mem_zeros member, digits⟩)
      (by rw [List.length_append, List.length_replicate]; omega)
      (by rw [Number.digitsValue_zeros_append, whole])
  have zero : other.integer.head? = some '0' := by
    rw [reaches, List.head?_append, List.head?_replicate, if_neg (by omega)]
    rfl
  rcases otherFits.leading zero with width | ⟨single, none⟩
  next =>
    have least := fits.leastInteger
    omega
  next =>
    have noDigit : numeral.integer = [] := by
      rw [single, List.length_singleton] at longer
      exact List.length_eq_zero_iff.1 (by omega)
    exact numeral.nonempty (by rw [noDigit, ← fraction, none]; rfl)

theorem Fits.eq (fits : numeral.Fits pattern) (otherFits : other.Fits pattern)
    (same : other.value = numeral.value) : other = numeral := by
  obtain ⟨whole, padded⟩ := fits.parts_eq otherFits same
  have fraction : other.fraction = numeral.fraction := by
    have width := Nat.le_antisymm (fits.length_fraction_le otherFits padded)
      (otherFits.length_fraction_le fits padded.symm)
    exact (List.append_inj padded width).1
  have integer : other.integer = numeral.integer :=
    Number.eq_of_digitsValue_eq (List.forall_mem_append.1 other.digits).1
      (List.forall_mem_append.1 numeral.digits).1
      (Nat.le_antisymm (fits.length_integer_le otherFits whole fraction)
        (otherFits.length_integer_le fits whole.symm fraction.symm)) whole
  exact Numeral.ext integer fraction

end Numeral

end Stencil
