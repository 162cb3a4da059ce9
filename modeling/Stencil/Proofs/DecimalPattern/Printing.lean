import Stencil.Proofs.DecimalPattern.Numeral

set_option autoImplicit false

namespace Stencil

open Number (digitsValue natText)

namespace DecimalPattern

theorem group_cons (size : Nat) (c : Char) (rest : List Char) {length start : Nat}
    (positive : 0 < start) (ends : start + rest.length = length) :
    group size (c :: rest) =
      c :: markedFrom start (fun i => 0 < i ∧ size ∣ length - i) rest := by
  induction rest generalizing c start with
  | nil => rfl
  | cons d rest ih =>
    have behind : length - start = (d :: rest).length := by omega
    have later := ih d (Nat.succ_pos start) (by rw [← ends, List.length_cons]; omega)
    change (if (d :: rest).length % size = 0 then c :: ',' :: group size (d :: rest)
      else c :: group size (d :: rest)) = _
    rw [later, markedFrom_cons]
    simp only [behind, positive, true_and, Nat.dvd_iff_mod_eq_zero]
    split <;> rfl

theorem group_eq_withCommas (size : Nat) (digits : List Char) :
    group size digits = withCommas size digits := by
  cases digits with
  | nil => rfl
  | cons c rest =>
    rw [group_cons size c rest Nat.one_pos (Nat.add_comm 1 _), withCommas, markedFrom_cons,
      if_neg (fun first => Nat.lt_irrefl 0 first.1)]
    rfl

theorem exists_eq_append_zeros (digits : List Char) :
    ∃ high zeros, digits = high ++ List.replicate zeros '0' ∧ high.getLast? ≠ some '0' := by
  induction digits using List.reverseRecOn with
  | nil => exact ⟨[], 0, rfl, nofun⟩
  | append_singleton digits c ih =>
    by_cases zero : c = '0'
    next =>
      obtain ⟨high, zeros, rfl, last⟩ := ih
      exact ⟨high, zeros + 1, by rw [zero, List.append_assoc, ← List.replicate_succ'], last⟩
    next => exact ⟨digits ++ [c], 0, by simp, by simpa using zero⟩

theorem trimZeros_append_zeros {high : List Char} (last : high.getLast? ≠ some '0')
    (least zeros : Nat) :
    trimZeros least (high ++ List.replicate zeros '0') =
      high ++ List.replicate (min (least - high.length) zeros) '0' := by
  have stops : high.reverse.takeWhile (· == '0') = [] := by
    rw [← List.head?_reverse] at last
    cases turned : high.reverse with
    | nil => rfl
    | cons c rest =>
      have other : c ≠ '0' := by simpa [turned] using last
      simp [other]
  have run : ((high ++ List.replicate zeros '0').reverse.takeWhile (· == '0')).length = zeros := by
    rw [List.reverse_append, List.reverse_replicate, List.takeWhile_append_of_pos (by simp), stops]
    simp
  simp only [trimZeros, run, List.length_append, List.length_replicate, Nat.add_sub_cancel]
  rw [List.take_append, List.take_of_length_le (Nat.le_max_right _ _), List.take_replicate]
  congr 2
  omega

theorem exists_trimZeros {least : Nat} {digits : List Char} (enough : least ≤ digits.length) :
    ∃ zeros, digits = trimZeros least digits ++ List.replicate zeros '0' ∧
      least ≤ (trimZeros least digits).length ∧
      ((trimZeros least digits).getLast? = some '0' → (trimZeros least digits).length = least) := by
  obtain ⟨high, zeros, rfl, last⟩ := exists_eq_append_zeros digits
  rw [List.length_append, List.length_replicate] at enough
  rw [trimZeros_append_zeros last]
  generalize kept : min (least - high.length) zeros = left
  refine ⟨zeros - left, ?_, ?_, fun zero => ?_⟩
  next =>
    rw [List.append_assoc, List.replicate_append_replicate]
    congr 2
    omega
  next =>
    rw [List.length_append, List.length_replicate]
    omega
  next =>
    rw [List.length_append, List.length_replicate]
    cases left with
    | zero => exact absurd (by simpa using zero) last
    | succ left => omega

theorem isDigit_of_mem_padLeft {length : Nat} {digits : List Char}
    (all : ∀ c ∈ digits, c.isDigit = true) : ∀ c ∈ padLeft length digits, c.isDigit = true := by
  rw [padLeft, List.forall_mem_append]
  exact ⟨fun c member => Number.isDigit_of_mem_zeros member, all⟩

theorem length_padLeft (length : Nat) (digits : List Char) :
    (padLeft length digits).length = max length digits.length := by
  rw [padLeft, List.length_append, List.length_replicate]
  omega

theorem digitsValue_padLeft (length : Nat) (digits : List Char) :
    digitsValue (padLeft length digits) = digitsValue digits :=
  Number.digitsValue_zeros_append _ digits

def fractionDigits (pattern : DecimalPattern) (part : Nat) : List Char :=
  if pattern.maxFraction = 0 then []
  else trimZeros pattern.minFraction (padLeft pattern.maxFraction (natText part))

def integerDigits (pattern : DecimalPattern) (whole : Nat) (fraction : List Char) : List Char :=
  let padded := padLeft pattern.minInteger (if whole = 0 then [] else natText whole)
  if padded.isEmpty && fraction.isEmpty then ['0'] else padded

theorem numberText_eq (pattern : DecimalPattern) (units : Nat) :
    pattern.numberText units =
      let fraction := pattern.fractionDigits (units % 10 ^ pattern.maxFraction)
      let integer := pattern.integerDigits (units / 10 ^ pattern.maxFraction) fraction
      pattern.grouping.elim integer (withCommas · integer) ++
        if fraction = [] then [] else '.' :: fraction := by
  have commas : group = withCommas := funext₂ group_eq_withCommas
  have folded : pattern.numberText units =
      let fraction := pattern.fractionDigits (units % 10 ^ pattern.maxFraction)
      let integer := pattern.integerDigits (units / 10 ^ pattern.maxFraction) fraction
      let grouped := pattern.grouping.elim integer (group · integer)
      if fraction.isEmpty then grouped else grouped ++ '.' :: fraction := rfl
  rw [folded, commas]
  cases pattern.fractionDigits (units % 10 ^ pattern.maxFraction) with
  | nil => exact (List.append_nil _).symm
  | cons c rest => rfl

theorem exists_fractionDigits (pattern : DecimalPattern)
    (ordered : pattern.minFraction ≤ pattern.maxFraction) {part : Nat}
    (small : part < 10 ^ pattern.maxFraction) :
    ∃ zeros, (∀ c ∈ pattern.fractionDigits part, c.isDigit = true) ∧
      (pattern.fractionDigits part).length + zeros = pattern.maxFraction ∧
      digitsValue (pattern.fractionDigits part) * 10 ^ zeros = part ∧
      pattern.minFraction ≤ (pattern.fractionDigits part).length ∧
      ((pattern.fractionDigits part).getLast? = some '0' →
        (pattern.fractionDigits part).length = pattern.minFraction) := by
  rw [fractionDigits]
  split
  next none =>
    rw [none] at ordered small ⊢
    exact ⟨0, nofun, rfl, (Nat.lt_one_iff.1 small).symm, ordered, nofun⟩
  next some =>
    have fits : (natText part).length ≤ pattern.maxFraction :=
      (Nat.length_toDigits_le_iff (by decide) (Nat.pos_of_ne_zero some)).2 small
    have width := length_padLeft pattern.maxFraction (natText part)
    rw [Nat.max_eq_left fits] at width
    have digits : ∀ c ∈ padLeft pattern.maxFraction (natText part), c.isDigit = true :=
      isDigit_of_mem_padLeft fun c member => Number.isDigit_of_mem_natText member
    have value := digitsValue_padLeft pattern.maxFraction (natText part)
    obtain ⟨zeros, split, least, trailing⟩ := exists_trimZeros (width.symm ▸ ordered)
    rw [split] at digits
    rw [split, Number.digitsValue_append_zeros, Number.digitsValue_natText] at value
    rw [split, List.length_append, List.length_replicate] at width
    exact ⟨zeros, (List.forall_mem_append.1 digits).1, width, value, least, trailing⟩

theorem length_padLeft_of_head? {length : Nat} {digits : List Char}
    (first : digits.head? ≠ some '0') (zero : (padLeft length digits).head? = some '0') :
    (padLeft length digits).length = length := by
  rw [length_padLeft]
  rw [padLeft] at zero
  cases missing : length - digits.length with
  | zero =>
    rw [missing] at zero
    exact absurd zero first
  | succ => omega

theorem integerDigits_spec (pattern : DecimalPattern) (whole : Nat) (fraction : List Char) :
    let integer := pattern.integerDigits whole fraction
    (∀ c ∈ integer, c.isDigit = true) ∧ integer ++ fraction ≠ [] ∧ digitsValue integer = whole ∧
      pattern.minInteger ≤ integer.length ∧
      (integer.head? = some '0' →
        integer.length = pattern.minInteger ∨ integer = ['0'] ∧ fraction = []) := by
  dsimp only [integerDigits]
  obtain ⟨text, shown, digits, value, first⟩ : ∃ text,
      (if whole = 0 then [] else natText whole) = text ∧ (∀ c ∈ text, c.isDigit = true) ∧
        digitsValue text = whole ∧ text.head? ≠ some '0' := by
    refine ⟨_, rfl, ?_⟩
    split
    next zero => exact ⟨nofun, zero.symm, nofun⟩
    next nonzero =>
      exact ⟨fun c member => Number.isDigit_of_mem_natText member, Number.digitsValue_natText whole,
        Number.head?_natText_ne_zero (Nat.pos_of_ne_zero nonzero)⟩
  have width := length_padLeft pattern.minInteger text
  have padded := digitsValue_padLeft pattern.minInteger text
  rw [shown]
  split
  next empty =>
    simp only [Bool.and_eq_true, List.isEmpty_iff] at empty
    obtain ⟨noDigit, noFraction⟩ := empty
    rw [noDigit] at width padded
    refine ⟨by simp, by simp, padded.trans value, ?_, fun _ => .inr ⟨rfl, noFraction⟩⟩
    exact (Nat.le_max_left _ _).trans (width.symm.le.trans (Nat.zero_le 1))
  next full =>
    refine ⟨isDigit_of_mem_padLeft digits, ?_, padded.trans value, width ▸ Nat.le_max_left _ _,
      fun zero => .inl (length_padLeft_of_head? first zero)⟩
    simpa [List.append_eq_nil_iff] using full

theorem exists_numeral (pattern : DecimalPattern)
    (ordered : pattern.minFraction ≤ pattern.maxFraction) (units : Nat) :
    ∃ numeral : Numeral, pattern.numberText units = numeral.text pattern.grouping ∧
      numeral.value = units / 10 ^ pattern.maxFraction ∧ numeral.Fits pattern := by
  have written := pattern.numberText_eq units
  have whole := pattern.integerDigits_spec (units / 10 ^ pattern.maxFraction)
    (pattern.fractionDigits (units % 10 ^ pattern.maxFraction))
  have part := pattern.exists_fractionDigits ordered
    (Nat.mod_lt units (Nat.pow_pos (by decide) : 0 < 10 ^ pattern.maxFraction))
  generalize pattern.fractionDigits (units % 10 ^ pattern.maxFraction) = fraction
    at written whole part
  dsimp only at written whole
  generalize pattern.integerDigits (units / 10 ^ pattern.maxFraction) fraction = integer
    at written whole
  obtain ⟨integerDigits, nonempty, wholeValue, leastInteger, leading⟩ := whole
  obtain ⟨zeros, fractionDigits, width, partValue, leastFraction, trailing⟩ := part
  have mostFraction : fraction.length ≤ pattern.maxFraction := width ▸ Nat.le_add_right _ zeros
  refine ⟨⟨integer, fraction, List.forall_mem_append.2 ⟨integerDigits, fractionDigits⟩, nonempty⟩,
    written, ?_, ⟨leastInteger, leading, leastFraction, mostFraction, trailing⟩⟩
  have counted : digitsValue (integer ++ fraction) * 10 ^ zeros = units := by
    rw [Number.digitsValue_append, Nat.add_mul, wholeValue, partValue, Nat.mul_assoc, ← Nat.pow_add, width,
      Nat.div_add_mod']
  rw [Numeral.value, ← width, ← counted]
  push_cast
  rw [pow_add, mul_div_mul_right _ _ (by positivity)]

end DecimalPattern

end Stencil
