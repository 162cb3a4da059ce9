import Stencil.Proofs.Fallible
import Stencil.Proofs.Number.Int64
import Stencil.Proofs.Number.RoundTrip
import Stencil.Value.Arithmetic

set_option autoImplicit false

namespace Stencil

open Fallible

namespace Number

variable {text digits : List Char}

/-- Whether a text is that of an integer: digits, at least one, and perhaps a sign before them. -/
inductive SpellsInteger : List Char → Int → Prop
  | plain {digits : List Char} (some : digits ≠ []) (decimal : ∀ c ∈ digits, c.isDigit = true) :
      SpellsInteger digits (digitsValue digits)
  | plus {digits : List Char} (some : digits ≠ []) (decimal : ∀ c ∈ digits, c.isDigit = true) :
      SpellsInteger ('+' :: digits) (digitsValue digits)
  | minus {digits : List Char} (some : digits ≠ []) (decimal : ∀ c ∈ digits, c.isDigit = true) :
      SpellsInteger ('-' :: digits) (-(digitsValue digits : Int))

theorem readNat?_eq_some_iff {n : Nat} :
    readNat? text = some n ↔
      text ≠ [] ∧ (∀ c ∈ text, c.isDigit = true) ∧ digitsValue text = n := by
  cases text with
  | nil => simp [readNat?]
  | cons first rest => simp [readNat?]

theorem splitSign_cases (text : List Char) :
    (∃ rest, text = '-' :: rest ∧ splitSign text = (true, rest)) ∨
    (∃ rest, text = '+' :: rest ∧ splitSign text = (false, rest)) ∨
    splitSign text = (false, text) := by
  unfold splitSign
  split
  next rest => exact .inl ⟨rest, rfl, rfl⟩
  next rest => exact .inr (.inl ⟨rest, rfl, rfl⟩)
  next => exact .inr (.inr rfl)

theorem splitSign_of_decimal (some : text ≠ []) (decimal : ∀ c ∈ text, c.isDigit = true) :
    splitSign text = (false, text) := by
  cases text with
  | nil => exact absurd rfl some
  | cons first rest => exact splitSign_of_isDigit (decimal first List.mem_cons_self) rest

theorem readInt?_eq_some {n : Int} (read : readInt? text = some n) :
    ∃ k, readNat? (splitSign text).2 = some k ∧ (if (splitSign text).1 then -(k : Int) else k) = n := by
  rw [readInt?] at read
  cases magnitude : readNat? (splitSign text).2 with
  | none => simp [magnitude] at read
  | some k => exact ⟨k, rfl, by simpa [magnitude] using read⟩

theorem readInt?_eq_some_iff {n : Int} : readInt? text = some n ↔ SpellsInteger text n := by
  constructor
  next =>
    intro read
    obtain ⟨k, magnitude, rfl⟩ := readInt?_eq_some read
    obtain ⟨some, decimal, rfl⟩ := readNat?_eq_some_iff.1 magnitude
    rcases splitSign_cases text with ⟨rest, rfl, split⟩ | ⟨rest, rfl, split⟩ | split <;>
      rw [split] at some decimal ⊢
    next => exact .minus some decimal
    next => exact .plus some decimal
    next => exact .plain some decimal
  next =>
    intro spelled
    cases spelled with
    | plain some decimal =>
      rw [readInt?, splitSign_of_decimal some decimal]
      simp [readNat?_eq_some_iff.2 ⟨some, decimal, rfl⟩]
    | plus some decimal =>
      simp [readInt?, splitSign, readNat?_eq_some_iff.2 ⟨some, decimal, rfl⟩]
    | minus some decimal =>
      simp [readInt?, splitSign, readNat?_eq_some_iff.2 ⟨some, decimal, rfl⟩]

theorem looksFractional_of_spellsInteger {n : Int} (spelled : SpellsInteger text n) :
    looksFractional text = false := by
  have unused {run : List Char} (decimal : ∀ c ∈ run, c.isDigit = true) (c : Char)
      (notDigit : c.isDigit = false) : c ∉ run :=
    fun member => ne_of_isDigit (decimal c member) notDigit rfl
  rw [Bool.eq_false_iff, Ne, looksFractional_iff]
  cases spelled with
  | plain _ decimal => simp [unused decimal]
  | plus _ decimal => simp [unused decimal]
  | minus _ decimal => simp [unused decimal]

theorem readInt64?_eq_some_iff {n : Int64} :
    readInt64? text = some n ↔ SpellsInteger text n.toInt := by
  rw [← readInt?_eq_some_iff, readInt64?, Option.bind_eq_some_iff]
  constructor
  next =>
    rintro ⟨k, read, fits⟩
    split at fits
    next inside =>
      obtain rfl := Option.some.inj fits
      rw [read, toInt_ofInt_of_inInt64 inside]
    next => cases fits
  next =>
    intro read
    refine ⟨n.toInt, read, (if_pos (inInt64_toInt n)).trans ?_⟩
    rw [Int64.ofInt_toInt]

end Number

namespace Value

/-- Values that count as an integer: integers, the absence of a value, and texts of integers that
are in range. -/
inductive CountsAs : Value → Int64 → Prop
  | integer (n : Int64) : CountsAs (integer n) n
  | absent : CountsAs absent 0
  | text {content : String} {n : Int64} (spelled : Number.SpellsInteger content.toList n.toInt) :
      CountsAs (text content) n

theorem coerce_eq_ok_integer_iff {value : Value} {n : Int64} :
    value.coerce = .ok (.integer n) ↔ value.CountsAs n := by
  constructor
  next =>
    intro counted
    cases value with
    | integer m =>
      cases counted
      exact .integer n
    | double x => cases counted
    | absent =>
      cases counted
      exact .absent
    | text content =>
      rw [coerce] at counted
      split at counted
      next => cases read : Number.readFloat? content.toList <;> simp [read] at counted
      next =>
        refine .text (Number.readInt64?_eq_some_iff.1 ?_)
        cases read : Number.readInt64? content.toList <;> simp_all
  next =>
    intro counts
    cases counts with
    | integer => rfl
    | absent => rfl
    | text spelled =>
      rw [coerce, Number.looksFractional_of_spellsInteger spelled,
        Number.readInt64?_eq_some_iff.2 spelled]
      rfl

section

variable {left right : Value} {x y : Int64}

theorem apply_of_coerce (op : Operator) (first : left.coerce = .ok (integer x))
    (second : right.coerce = .ok (integer y)) : apply op left right = integerResult op x y := by
  rw [apply, first, second]
  rfl

theorem compare_of_coerce (first : left.coerce = .ok (integer x))
    (second : right.coerce = .ok (integer y)) :
    left.compare right = .ok (Ord.compare x.toInt y.toInt) := by
  rw [compare, first, second]
  rfl

structure IsExact (op : Operator) (exact : Int) (result : Except RuntimeError Value) : Prop where
  given : InInt64 exact → ∃ n : Int64, n.toInt = exact ∧ result = .ok (integer n)
  refused : ¬ InInt64 exact → result = .error (.overflow op)

theorem exists_of_integerResult {op : Operator} {value : Value}
    (given : integerResult op x y = .ok value) :
    ∃ n : Int64, value = integer n ∧ n.toInt = exactResult op x.toInt y.toInt := by
  unfold integerResult at given
  dsimp only at given
  split at given
  next => cases given
  next =>
    split at given
    next inside =>
      cases given
      exact ⟨_, rfl, toInt_ofInt_of_inInt64 inside⟩
    next => cases given

theorem isExact_integerResult {op : Operator} (defined : op = .divide → y ≠ 0) :
    IsExact op (exactResult op x.toInt y.toInt) (integerResult op x y) := by
  have notByZero : ¬ (op = .divide ∧ y = 0) := fun ⟨divides, zero⟩ => defined divides zero
  rw [integerResult, if_neg notByZero]
  constructor
  next =>
    intro inside
    exact ⟨_, toInt_ofInt_of_inInt64 inside, if_pos inside⟩
  next => exact fun outside => if_neg outside

theorem integerResult_divide_zero : integerResult .divide x 0 = .error .divisionByZero :=
  if_pos ⟨rfl, rfl⟩

theorem isExact_divide (nonzero : y ≠ 0) :
    IsExact .divide (x.toInt.tdiv y.toInt) (integerResult .divide x y) :=
  isExact_integerResult fun _ => nonzero

theorem divide_eq_divisionByZero_iff :
    integerResult .divide x y = .error .divisionByZero ↔ y = 0 := by
  by_cases zero : y = 0
  next =>
    subst zero
    simp [integerResult_divide_zero]
  next =>
    refine iff_of_false (fun failed => ?_) zero
    by_cases inside : InInt64 (x.toInt.tdiv y.toInt)
    next =>
      obtain ⟨q, -, given⟩ := (isExact_divide zero).given inside
      cases given.symm.trans failed
    next => cases ((isExact_divide zero).refused inside).symm.trans failed

theorem divide_eq_overflow_iff :
    integerResult .divide x y = .error (.overflow .divide) ↔ x = Int64.minValue ∧ y = -1 := by
  by_cases zero : y = 0
  next =>
    subst zero
    refine iff_of_false (fun failed => ?_) (fun ⟨_, notZero⟩ => absurd notZero (by decide))
    cases integerResult_divide_zero.symm.trans failed
  next =>
    rw [← not_iff_not, ← inInt64_tdiv_iff zero]
    constructor
    next =>
      intro given
      by_contra outside
      exact given ((isExact_divide zero).refused outside)
    next =>
      intro inside failed
      obtain ⟨q, -, given⟩ := (isExact_divide zero).given inside
      cases given.symm.trans failed

theorem remainder_of_tdiv (x : Int) {y : Int} (nonzero : y ≠ 0) :
    (x - y * x.tdiv y).natAbs < y.natAbs ∧
      (x - y * x.tdiv y ≠ 0 → (x - y * x.tdiv y).sign = x.sign) := by
  rw [← Int.tmod_def]
  constructor
  next =>
    rw [Int.natAbs_tmod]
    exact Nat.mod_lt _ (Int.natAbs_pos.2 nonzero)
  next =>
    intro some
    rw [Int.sign_tmod, if_neg fun divides => some (Int.tmod_eq_zero_of_dvd divides)]

theorem remainder_of_divide {q : Int64} (given : integerResult .divide x y = .ok (integer q)) :
    (x.toInt - y.toInt * q.toInt).natAbs < y.toInt.natAbs ∧
      (x.toInt - y.toInt * q.toInt ≠ 0 →
        (x.toInt - y.toInt * q.toInt).sign = x.toInt.sign) := by
  have nonzero : y.toInt ≠ 0 := by
    intro zero
    obtain rfl := Int64.toInt_inj.1 (zero.trans Int64.toInt_zero.symm)
    cases integerResult_divide_zero.symm.trans given
  obtain ⟨_, ⟨⟩, same⟩ := exists_of_integerResult given
  exact same ▸ remainder_of_tdiv x.toInt nonzero

theorem subtract_of_add {s : Int64} (given : integerResult .add x y = .ok (integer s)) :
    integerResult .subtract s y = .ok (integer x) := by
  obtain ⟨_, ⟨⟩, same⟩ := exists_of_integerResult given
  have term : exactResult .subtract s.toInt y.toInt = x.toInt := by
    rw [same]
    exact Int.add_sub_cancel _ _
  have exact : IsExact .subtract _ (integerResult .subtract s y) := isExact_integerResult nofun
  obtain ⟨n, sameTerm, taken⟩ := exact.given (term ▸ inInt64_toInt x)
  rw [taken, Int64.toInt_inj.1 (sameTerm.trans term)]

theorem compare_sub_zero (x y : Int) : Ord.compare (x - y) 0 = Ord.compare x y := by
  rcases lt_trichotomy x y with less | rfl | greater
  next => rw [compare_lt_iff_lt.2 less, compare_lt_iff_lt.2 (Int.sub_neg_of_lt less)]
  next => rw [Int.sub_self, compare_eq_iff_eq.2 rfl, compare_eq_iff_eq.2 rfl]
  next => rw [compare_gt_iff_gt.2 greater, compare_gt_iff_gt.2 (Int.sub_pos_of_lt greater)]

def AtMost (left right : Value) : Prop :=
  ∃ order, left.compare right = .ok order ∧ order ≠ .gt

theorem atMost_iff (first : left.coerce = .ok (integer x))
    (second : right.coerce = .ok (integer y)) : left.AtMost right ↔ x.toInt ≤ y.toInt := by
  rw [AtMost, compare_of_coerce first second]
  simp [compare_le_iff_le]

/-- Arithmetic on values that count as integers is exact or refused. A sum, a difference or a product
is given if it is in range, and so is a quotient, cut toward zero, of a divisor that is not zero. The
order of two such values is that of their integers, also where their difference is out of range. -/
theorem integers_exact (first : left.coerce = .ok (integer x))
    (second : right.coerce = .ok (integer y)) :
    (∀ value n, coerce value = .ok (integer n) ↔ value.CountsAs n) ∧
    (IsExact .add (x.toInt + y.toInt) (apply .add left right) ∧
      IsExact .subtract (x.toInt - y.toInt) (apply .subtract left right) ∧
      IsExact .multiply (x.toInt * y.toInt) (apply .multiply left right)) ∧
    ((apply .divide left right = .error .divisionByZero ↔ y = 0) ∧
      (apply .divide left right = .error (.overflow .divide) ↔ x = Int64.minValue ∧ y = -1) ∧
      (y ≠ 0 → ¬ (x = Int64.minValue ∧ y = -1) →
        ∃ q : Int64, q.toInt = x.toInt.tdiv y.toInt ∧ apply .divide left right = .ok (integer q))) ∧
    left.compare right = .ok (Ord.compare x.toInt y.toInt) ∧
    (left.AtMost left ∧ (left.AtMost right ∨ right.AtMost left) ∧
      (left.AtMost right → right.AtMost left → x = y) ∧
      ∀ third z, third.coerce = .ok (integer z) →
        left.AtMost right → right.AtMost third → left.AtMost third) ∧
    (∀ difference, apply .subtract left right = .ok difference →
      ∃ d : Int64, difference = integer d ∧ left.compare right = .ok (Ord.compare d.toInt 0)) ∧
    (∀ sum, apply .add left right = .ok sum → apply .subtract sum right = .ok (integer x)) ∧
    ∀ quotient, apply .divide left right = .ok quotient →
      ∃ q : Int64, quotient = integer q ∧
        (x.toInt - y.toInt * q.toInt).natAbs < y.toInt.natAbs ∧
        (x.toInt - y.toInt * q.toInt ≠ 0 →
          (x.toInt - y.toInt * q.toInt).sign = x.toInt.sign) := by
  have order := compare_of_coerce first second
  simp only [apply_of_coerce _ first second]
  refine ⟨fun _ _ => coerce_eq_ok_integer_iff,
    ⟨isExact_integerResult nofun, isExact_integerResult nofun, isExact_integerResult nofun⟩,
    ⟨divide_eq_divisionByZero_iff, divide_eq_overflow_iff, fun nonzero fits => ?_⟩, order,
    ⟨?_, ?_, ?_, ?_⟩, ?_, ?_, ?_⟩
  next => exact (isExact_divide nonzero).given ((inInt64_tdiv_iff nonzero).2 fits)
  next => exact (atMost_iff first first).2 le_rfl
  next =>
    rw [atMost_iff first second, atMost_iff second first]
    exact le_total _ _
  next =>
    rw [atMost_iff first second, atMost_iff second first]
    exact fun low high => Int64.toInt_inj.1 (le_antisymm low high)
  next =>
    intro third z last
    rw [atMost_iff first second, atMost_iff second last, atMost_iff first last]
    exact le_trans
  next =>
    intro difference given
    obtain ⟨d, rfl, same⟩ := exists_of_integerResult given
    exact ⟨d, rfl, by rw [same, exactResult, compare_sub_zero, order]⟩
  next =>
    intro sum given
    obtain ⟨s, rfl, -⟩ := exists_of_integerResult given
    exact (apply_of_coerce .subtract rfl second).trans (subtract_of_add given)
  next =>
    intro quotient given
    obtain ⟨q, rfl, -⟩ := exists_of_integerResult given
    exact ⟨q, rfl, remainder_of_divide given⟩

theorem integers_exact_at_minValue :
    let least := text "-9223372036854775808"
    least.coerce = .ok (integer Int64.minValue) ∧
      apply .add least (integer (-1)) = .error (.overflow .add) ∧
      apply .divide least (integer (-1)) = .error (.overflow .divide) ∧
      least.compare (integer (-1)) = .ok .lt := by
  intro least
  have counted : least.coerce = .ok (integer Int64.minValue) := by decide
  have minusOne : (integer (-1)).coerce = .ok (integer (-1)) := rfl
  obtain ⟨-, ⟨sum, -, -⟩, ⟨-, overflow, -⟩, order, -⟩ := integers_exact counted minusOne
  exact ⟨counted, sum.refused (by decide), overflow.2 ⟨rfl, rfl⟩, order⟩

end

end Value

end Stencil
