import Stencil.Number.Layout
import Stencil.Number.Reader
import Stencil.Proofs.Number.Bits
import Stencil.Proofs.Number.Shortest

set_option autoImplicit false

namespace Stencil.Number

theorem isDigit_of_mem_natText {n : Nat} {c : Char} (member : c ∈ natText n) : c.isDigit = true :=
  Nat.isDigit_of_mem_toDigits (by decide) (by decide) member

theorem digitsValue_natText (n : Nat) : digitsValue (natText n) = n :=
  Nat.ofDigitChars_ten_toDigits

theorem digitsValue_zeros_append (k : Nat) (digits : List Char) :
    digitsValue (List.replicate k '0' ++ digits) = digitsValue digits := by
  simp [digitsValue, Nat.ofDigitChars_append]

theorem digitsValue_append_zeros (k : Nat) (digits : List Char) :
    digitsValue (digits ++ List.replicate k '0') = digitsValue digits * 10 ^ k := by
  simp [digitsValue, Nat.ofDigitChars_append, Nat.mul_comm]

theorem digitsValue_append_zero (digits : List Char) :
    digitsValue (digits ++ ['0']) = digitsValue digits * 10 :=
  digitsValue_append_zeros 1 digits

theorem natText_ne_nil (n : Nat) : natText n ≠ [] :=
  Nat.toDigits_ne_nil

theorem head?_natText_ne_zero {n : Nat} (positive : 0 < n) : (natText n).head? ≠ some '0' := by
  induction n using Nat.base_induction 10 (by decide) with
  | single n small =>
    simp [natText, Nat.toDigits_of_lt_base small, Nat.ne_of_gt positive]
  | digit n k small more ih =>
    rw [natText, ← Nat.toDigits_append_toDigits (by decide) more small,
      List.head?_append_of_ne_nil _ Nat.toDigits_ne_nil]
    exact ih more

theorem digitsValue_append (high low : List Char) :
    digitsValue (high ++ low) = digitsValue high * 10 ^ low.length + digitsValue low := by
  rw [digitsValue, Nat.ofDigitChars_append, Nat.ofDigitChars_eq_ofDigitChars_zero, Nat.mul_comm]
  rfl

def digitOf (c : Char) : Nat :=
  c.toNat - '0'.toNat

theorem toNat_eq_digitOf {c : Char} (digit : c.isDigit = true) :
    c.toNat = digitOf c + '0'.toNat ∧ digitOf c < 10 := by
  have bounds : '0'.toNat ≤ c.toNat ∧ c.toNat ≤ '0'.toNat + 9 := Char.isDigit_iff_toNat.1 digit
  rw [digitOf]
  omega

theorem digitsValue_concat (digits : List Char) (c : Char) :
    digitsValue (digits ++ [c]) = 10 * digitsValue digits + digitOf c := by
  rw [digitsValue, Nat.ofDigitChars_append, Nat.ofDigitChars_cons, Nat.ofDigitChars_nil]
  rfl

theorem digitsValue_lt {digits : List Char} (all : ∀ c ∈ digits, c.isDigit = true) :
    digitsValue digits < 10 ^ digits.length := by
  induction digits using List.reverseRecOn with
  | nil => exact Nat.one_pos
  | append_singleton digits c ih =>
    obtain ⟨high, last⟩ := List.forall_mem_append.1 all
    have below := ih high
    have digit := (toNat_eq_digitOf (last c List.mem_cons_self)).2
    rw [digitsValue_concat, List.length_append, List.length_singleton, Nat.pow_succ]
    omega

theorem eq_of_digitsValue_eq {digits others : List Char}
    (all : ∀ c ∈ digits, c.isDigit = true) (allOthers : ∀ c ∈ others, c.isDigit = true)
    (width : digits.length = others.length) (value : digitsValue digits = digitsValue others) :
    digits = others := by
  induction digits using List.reverseRecOn generalizing others with
  | nil => exact (List.length_eq_zero_iff.1 width.symm).symm
  | append_singleton digits c ih =>
    rcases List.eq_nil_or_concat' others with rfl | ⟨others, d, rfl⟩
    next => simp at width
    next =>
      obtain ⟨high, last⟩ := List.forall_mem_append.1 all
      obtain ⟨highOthers, lastOthers⟩ := List.forall_mem_append.1 allOthers
      obtain ⟨first, small⟩ := toNat_eq_digitOf (last c List.mem_cons_self)
      obtain ⟨second, smallOther⟩ := toNat_eq_digitOf (lastOthers d List.mem_cons_self)
      rw [digitsValue_concat, digitsValue_concat] at value
      have same : c = d := Char.toNat_inj.1 (by omega)
      rw [ih high highOthers (by simpa using width) (by omega), same]

theorem readNat?_natText (n : Nat) : readNat? (natText n) = some n := by
  have digits : (natText n).all Char.isDigit = true :=
    List.all_eq_true.2 fun c member => isDigit_of_mem_natText member
  simp [readNat?, natText_ne_nil, digits, digitsValue_natText]

theorem ne_of_isDigit {c other : Char} (digit : c.isDigit = true)
    (isOther : other.isDigit = false) : c ≠ other := by
  rintro rfl
  rw [digit] at isOther
  cases isOther

theorem splitSign_of_isDigit {c : Char} (digit : c.isDigit = true) (rest : List Char) :
    splitSign (c :: rest) = (false, c :: rest) := by
  unfold splitSign
  split
  next same => cases same; exact absurd digit (by decide)
  next same => cases same; exact absurd digit (by decide)
  next => rfl

theorem splitSign_minus (rest : List Char) : splitSign ('-' :: rest) = (true, rest) := rfl

theorem splitSign_natText (n : Nat) : splitSign (natText n) = (false, natText n) := by
  cases spelled : natText n with
  | nil => exact absurd spelled (natText_ne_nil n)
  | cons c rest =>
    exact splitSign_of_isDigit (isDigit_of_mem_natText (n := n) (by simp [spelled])) rest

theorem readInt?_integerText (n : Int) : readInt? (integerText n) = some n := by
  by_cases negative : n < 0
  next =>
    simp [readInt?, integerText, negative, splitSign_minus, readNat?_natText, abs_of_neg negative]
  next =>
    have back : (n.natAbs : Int) = n := by omega
    simp [readInt?, integerText, negative, splitSign_natText, readNat?_natText, back]

theorem readInt64?_integerText (n : Int64) : readInt64? (integerText n.toInt) = some n := by
  rw [readInt64?, readInt?_integerText, Option.bind_some, if_pos, Int64.ofInt_toInt]
  exact ⟨Int64.le_toInt n, Int64.toInt_le n⟩

theorem span_isDigit {run : List Char} (rest : List Char) (digits : ∀ c ∈ run, c.isDigit = true)
    (ends : ∀ c ∈ rest.head?, c.isDigit = false) :
    (run ++ rest).takeWhile Char.isDigit = run ∧ (run ++ rest).dropWhile Char.isDigit = rest := by
  rw [List.takeWhile_append_of_pos digits, List.dropWhile_append_of_pos digits]
  cases rest with
  | nil => simp
  | cons c later => simp [ends c rfl]

theorem readDecimal?_whole {whole : List Char} (rest : List Char)
    (digits : ∀ c ∈ whole, c.isDigit = true) (some : whole ≠ [])
    (ends : ∀ c ∈ rest.head?, c.isDigit = false ∧ c ≠ '.') :
    readDecimal? (whole ++ rest) =
      (readExponent? rest).map fun exponent => ⟨digitsValue whole, exponent⟩ := by
  obtain ⟨wholeIs, restIs⟩ := span_isDigit rest digits fun c first => (ends c first).1
  simp only [readDecimal?, wholeIs, restIs]
  split
  next => exact absurd rfl (ends '.' rfl).2
  next => simp [some]

theorem readDecimal?_point (whole fraction rest : List Char)
    (digits : ∀ c ∈ whole, c.isDigit = true) (some : whole ≠ [])
    (fractionDigits : ∀ c ∈ fraction, c.isDigit = true)
    (ends : ∀ c ∈ rest.head?, c.isDigit = false) :
    readDecimal? (whole ++ '.' :: (fraction ++ rest)) =
      (readExponent? rest).map fun exponent =>
        ⟨digitsValue (whole ++ fraction), exponent - fraction.length⟩ := by
  obtain ⟨wholeIs, pointIs⟩ := span_isDigit ('.' :: (fraction ++ rest)) digits (by simp)
  obtain ⟨fractionIs, restIs⟩ := span_isDigit rest fractionDigits ends
  simp [readDecimal?, wholeIs, pointIs, fractionIs, restIs, some]

theorem isDigit_of_mem_zeros {k : Nat} {c : Char} (member : c ∈ List.replicate k '0') :
    c.isDigit = true := by
  rw [List.eq_of_mem_replicate member]
  rfl

theorem readDecimal?_positional (d : Decimal) :
    ∃ e, readDecimal? (positional d.digits d.point) = some e ∧ e.value = d.value := by
  have digits : ∀ c ∈ d.digits, c.isDigit = true := fun c member => isDigit_of_mem_natText member
  have value : digitsValue d.digits = d.coefficient := digitsValue_natText d.coefficient
  have some : 0 < d.digits.length := Nat.length_toDigits_pos
  have place : d.point = d.digits.length + d.exponent := rfl
  unfold positional
  split
  next small =>
    -- Zeros in front change neither the coefficient nor the number of places behind the point.
    have leading : digitsValue (['0'] ++ (List.replicate (-d.point).toNat '0' ++ d.digits)) =
        d.coefficient := by
      rw [← List.replicate_one, digitsValue_zeros_append, digitsValue_zeros_append, value]
    have read := readDecimal?_point ['0'] (List.replicate (-d.point).toNat '0' ++ d.digits) []
      (by simp) (by simp)
      (fun c member => (List.mem_append.1 member).elim isDigit_of_mem_zeros (digits c)) (by simp)
    rw [leading, List.append_nil] at read
    refine ⟨d, read.trans ?_, rfl⟩
    simp only [readExponent?, Option.map_some, List.length_append, List.length_replicate]
    congr 2
    omega
  next =>
    split
    next inside =>
      have read := readDecimal?_point (d.digits.take d.point.toNat) (d.digits.drop d.point.toNat) []
        (fun c member => digits c (List.mem_of_mem_take member))
        (List.ne_nil_of_length_pos (by rw [List.length_take]; omega))
        (fun c member => digits c (List.mem_of_mem_drop member)) (by simp)
      rw [List.take_append_drop, value, List.append_nil] at read
      refine ⟨d, read.trans ?_, rfl⟩
      simp only [readExponent?, Option.map_some, List.length_drop]
      congr 2
      omega
    next outside =>
      obtain ⟨k, exponent⟩ := Int.eq_ofNat_of_zero_le (show 0 ≤ d.exponent by omega)
      have zeros : d.point.toNat - d.digits.length = k := by omega
      have read := readDecimal?_point (d.digits ++ List.replicate k '0') ['0'] []
        (fun c member => (List.mem_append.1 member).elim (digits c) isDigit_of_mem_zeros)
        (List.ne_nil_of_length_pos (by rw [List.length_append]; omega)) (by simp) (by simp)
      have coefficient : digitsValue (d.digits ++ List.replicate k '0' ++ ['0']) =
          d.coefficient * 10 ^ k * 10 := by
        rw [digitsValue_append_zero, digitsValue_append_zeros, value]
      rw [coefficient] at read
      rw [zeros]
      refine ⟨_, read, ?_⟩
      simp only [Decimal.value, exponent]
      push_cast
      simp

def DoubleStyle.Readable (style : DoubleStyle) : Prop :=
  style.exponentMark = 'e' ∨ style.exponentMark = 'E'

theorem readExponent?_mark {style : DoubleStyle} (readable : style.Readable) (n : Int) :
    readExponent? (style.exponentMark :: integerText n) = some n := by
  rw [readExponent?, readInt?_integerText]
  exact if_pos readable

theorem readDecimal?_scientific {style : DoubleStyle} (readable : style.Readable) (d : Decimal) :
    ∃ e, readDecimal? (scientific style d.digits d.point) = some e ∧ e.value = d.value := by
  have digits : ∀ c ∈ d.digits, c.isDigit = true := fun c member => isDigit_of_mem_natText member
  have value : digitsValue d.digits = d.coefficient := digitsValue_natText d.coefficient
  have place : d.point = d.digits.length + d.exponent := rfl
  have mark : style.exponentMark.isDigit = false ∧ style.exponentMark ≠ '.' := by
    rcases readable with same | same <;> rw [same] <;> decide
  have exponent := readExponent?_mark readable (d.point - 1)
  cases spelled : d.digits with
  | nil => exact absurd spelled (natText_ne_nil d.coefficient)
  | cons first tail =>
    rw [spelled] at digits value place
    unfold scientific
    have firstDigit : ∀ c ∈ [first], c.isDigit = true := fun c member => digits c (by simp_all)
    cases tail with
    | nil =>
      by_cases full : style.fullMantissa
      next =>
        have read := readDecimal?_point [first] ['0']
          (style.exponentMark :: integerText (d.point - 1)) firstDigit (by simp) (by simp)
          (by simpa using mark.1)
        have coefficient : digitsValue ([first] ++ ['0']) = d.coefficient * 10 := by
          rw [digitsValue_append_zero, value]
        rw [exponent, coefficient] at read
        refine ⟨_, by simpa [full] using read, ?_⟩
        have shift : d.exponent = d.point - 1 - 1 + 1 := by simp at place; omega
        simp only [Decimal.value, shift]
        rw [zpow_add_one₀ (by norm_num)]
        push_cast
        ring
      next =>
        have read := readDecimal?_whole (style.exponentMark :: integerText (d.point - 1))
          firstDigit (by simp) (by simpa using mark)
        rw [exponent, value] at read
        refine ⟨_, by simpa [full] using read, ?_⟩
        have shift : d.point - 1 = d.exponent := by simp at place; omega
        simp [Decimal.value, shift]
    | cons second rest =>
      have read := readDecimal?_point [first] (second :: rest)
        (style.exponentMark :: integerText (d.point - 1)) firstDigit (by simp)
        (fun c member => digits c (List.mem_cons_of_mem _ member)) (by simpa using mark.1)
      have shift : d.point - 1 - (second :: rest).length = d.exponent := by
        simp only [List.length_cons] at place ⊢
        omega
      have coefficient : digitsValue ([first] ++ second :: rest) = d.coefficient := value
      rw [exponent, coefficient, Option.map_some, shift] at read
      exact ⟨d, by simpa using read, rfl⟩

theorem readDecimal?_decimalText {style : DoubleStyle} (readable : style.Readable) (d : Decimal) :
    ∃ e, readDecimal? (decimalText style d) = some e ∧ e.value = d.value := by
  simp only [decimalText]
  split
  next => exact readDecimal?_positional d
  next => exact readDecimal?_scientific readable d

theorem exists_digits_eq_cons (d : Decimal) :
    ∃ c rest, d.digits = c :: rest ∧ c.isDigit = true := by
  cases spelled : d.digits with
  | nil => exact absurd spelled (natText_ne_nil d.coefficient)
  | cons c rest =>
    have member : c ∈ d.digits := by simp [spelled]
    exact ⟨c, rest, rfl, isDigit_of_mem_natText member⟩

theorem exists_decimalText_eq_cons (style : DoubleStyle) (d : Decimal) :
    ∃ c rest, decimalText style d = c :: rest ∧ c.isDigit = true := by
  obtain ⟨c, rest, spelled, digit⟩ := exists_digits_eq_cons d
  simp only [decimalText, positional, scientific, spelled]
  split
  next =>
    split
    next => exact ⟨'0', _, rfl, rfl⟩
    next =>
      split
      next positive _ =>
        obtain ⟨k, place⟩ := Nat.exists_eq_succ_of_ne_zero (show d.point.toNat ≠ 0 by omega)
        exact ⟨c, rest.take k ++ '.' :: (c :: rest).drop d.point.toNat, by simp [place], digit⟩
      next => exact ⟨c, _, rfl, digit⟩
  next => exact ⟨c, _, rfl, digit⟩

/-- A finite double reads back as itself, bit by bit. -/
theorem readFloat?_doubleText {style : DoubleStyle} (readable : style.Readable) {x : Float}
    (finite : Binary64.isFinite x = true) : readFloat? (doubleText style x) = some x := by
  have bits := of_decide_eq_true finite
  obtain ⟨e, read, value⟩ :=
    readDecimal?_decimalText readable (Decimal.shortest (Binary64.magnitudeBits x))
  obtain ⟨c, rest, spelled, digit⟩ :=
    exists_decimalText_eq_cons style (Decimal.shortest (Binary64.magnitudeBits x))
  have back : e.toFloat (Binary64.isNegative x) = x := by
    rw [Decimal.toFloat, Decimal.toBits_congr value, Decimal.toBits_shortest bits,
      ofMagnitude_magnitudeBits]
  have sign : splitSign (doubleText style x) =
      (Binary64.isNegative x, decimalText style (Decimal.shortest (Binary64.magnitudeBits x))) := by
    simp only [doubleText, if_pos bits]
    cases Binary64.isNegative x
    next => simp [spelled, splitSign_of_isDigit digit]
    next => simp [splitSign_minus]
  rw [readFloat?, sign]
  simp only [read, Option.map_some, back]

theorem mem_integerText {n : Int} {c : Char} (member : c ∈ integerText n) :
    c.isDigit = true ∨ c = '-' := by
  unfold integerText at member
  split at member
  next =>
    rcases List.mem_cons.1 member with same | member
    next => exact .inr same
    next => exact .inl (isDigit_of_mem_natText member)
  next => exact .inl (isDigit_of_mem_natText member)

def DoubleStyle.Uses (style : DoubleStyle) (c : Char) : Prop :=
  c.isDigit = true ∨ c = '-' ∨ c = '.' ∨ c = style.exponentMark

theorem uses_decimalText (style : DoubleStyle) (d : Decimal) :
    ∀ c ∈ decimalText style d, style.Uses c := by
  have digits : ∀ c ∈ d.digits, style.Uses c := fun c member => .inl (isDigit_of_mem_natText member)
  have zeros (k : Nat) : ∀ c ∈ List.replicate k '0', style.Uses c :=
    fun c member => .inl (isDigit_of_mem_zeros member)
  have zero : style.Uses '0' := .inl rfl
  have point : style.Uses '.' := .inr (.inr (.inl rfl))
  have mark : style.Uses style.exponentMark := .inr (.inr (.inr rfl))
  have exponent : ∀ c ∈ integerText (d.point - 1), style.Uses c :=
    fun c member => (mem_integerText member).imp_right .inl
  simp only [decimalText]
  split
  next =>
    unfold positional
    split
    next =>
      simp only [List.forall_mem_append]
      exact ⟨⟨by simp [zero, point], zeros _⟩, digits⟩
    next =>
      split
      next =>
        simp only [List.forall_mem_append, List.forall_mem_cons]
        exact ⟨fun c member => digits c (List.mem_of_mem_take member), point,
          fun c member => digits c (List.mem_of_mem_drop member)⟩
      next =>
        simp only [List.forall_mem_append]
        exact ⟨⟨digits, zeros _⟩, by simp [zero, point]⟩
  next =>
    simp only [scientific, List.forall_mem_append, List.forall_mem_cons]
    refine ⟨⟨fun c member => digits c (List.mem_of_mem_take member), ?_⟩, mark, exponent⟩
    split
    next => split <;> simp [zero, point]
    next =>
      rw [List.forall_mem_cons]
      exact ⟨point, fun c member => digits c (List.mem_of_mem_tail member)⟩

theorem uses_doubleText (style : DoubleStyle) {x : Float} (finite : Binary64.isFinite x = true) :
    ∀ c ∈ doubleText style x, style.Uses c := by
  have minus : style.Uses '-' := .inr (.inl rfl)
  simp only [doubleText, if_pos (of_decide_eq_true finite), List.forall_mem_append]
  refine ⟨?_, uses_decimalText style _⟩
  split <;> simp [minus]

theorem looksFractional_iff {text : List Char} :
    looksFractional text = true ↔ '.' ∈ text ∨ 'e' ∈ text ∨ 'E' ∈ text := by
  simp only [looksFractional, List.any_eq_true, Bool.or_eq_true, beq_iff_eq]
  constructor
  next =>
    rintro ⟨c, member, (rfl | rfl) | rfl⟩
    next => exact .inl member
    next => exact .inr (.inl member)
    next => exact .inr (.inr member)
  next =>
    rintro (member | member | member)
    next => exact ⟨_, member, .inl (.inl rfl)⟩
    next => exact ⟨_, member, .inl (.inr rfl)⟩
    next => exact ⟨_, member, .inr rfl⟩

theorem looksFractional_integerText (n : Int) : looksFractional (integerText n) = false := by
  have unused {c : Char} (notDigit : c.isDigit = false) (notMinus : c ≠ '-') :
      c ∉ integerText n := by
    intro member
    rcases mem_integerText member with digit | same
    next => exact Bool.false_ne_true (notDigit.symm.trans digit)
    next => exact notMinus same
  rw [Bool.eq_false_iff, Ne, looksFractional_iff]
  rintro (member | member | member) <;> exact unused (by decide) (by decide) member

theorem point_mem_positional (digits : List Char) (point : Int) :
    '.' ∈ positional digits point := by
  unfold positional
  split
  next => simp
  next => split <;> simp

theorem point_or_mark_mem_decimalText (style : DoubleStyle) (d : Decimal) :
    '.' ∈ decimalText style d ∨ style.exponentMark ∈ decimalText style d := by
  simp only [decimalText]
  split
  next => exact .inl (point_mem_positional _ _)
  next => exact .inr (by simp [scientific])

theorem looksFractional_doubleText {style : DoubleStyle} (readable : style.Readable) {x : Float}
    (finite : Binary64.isFinite x = true) : looksFractional (doubleText style x) = true := by
  simp only [looksFractional_iff, doubleText, if_pos (of_decide_eq_true finite)]
  rcases point_or_mark_mem_decimalText style (Decimal.shortest (Binary64.magnitudeBits x)) with
    point | mark
  next => exact .inl (List.mem_append_right _ point)
  next =>
    refine .inr (readable.imp ?_ ?_) <;> intro same <;> rw [← same] <;>
      exact List.mem_append_right _ mark

end Stencil.Number
