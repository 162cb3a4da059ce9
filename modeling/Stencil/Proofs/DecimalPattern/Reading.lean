import Mathlib.Data.List.Basic
import Stencil.DecimalPattern
import Stencil.Proofs.Text.Utf8

set_option autoImplicit false

namespace Stencil.DecimalPattern

/-- Whether the text of a pattern, up to a semicolon, has these symbols for the integer part and the
fraction, and nothing was kept of it but their numbers and what stands around them. -/
structure Describes (text integer fraction : List Char) (pattern : DecimalPattern) : Prop where
  layout : ∃ point, (point = ['.'] ∨ point = [] ∧ fraction = []) ∧
    integer ++ point ++ fraction ≠ [] ∧
    text.takeWhile (· != ';') = pattern.before ++ (integer ++ point ++ fraction) ++ pattern.after
  before : ∀ c ∈ pattern.before, isNumberSymbol c = false
  after : ∀ c ∈ pattern.after.head?, isNumberSymbol c = false
  integerSymbols : ∀ c ∈ integer, c = '#' ∨ c = '0' ∨ c = ','
  fractionSymbols : ∀ c ∈ fraction, c = '#' ∨ c = '0'
  minInteger : pattern.minInteger = integer.count '0'
  grouping : ∀ size, pattern.grouping = some size ↔
    0 < size ∧ ∃ high low, integer = high ++ ',' :: low ∧ ',' ∉ low ∧ low.length = size
  minFraction : pattern.minFraction = fraction.count '0'
  maxFraction : pattern.maxFraction = fraction.length

theorem isNumberSymbol_iff {c : Char} :
    isNumberSymbol c = true ↔ c = '#' ∨ c = '0' ∨ c = ',' ∨ c = '.' := by
  simp [isNumberSymbol, or_assoc]

theorem splitPoint_layout (symbols : List Char) :
    ∃ point, (point = ['.'] ∨ point = [] ∧ (splitPoint symbols).2 = []) ∧
      symbols = (splitPoint symbols).1 ++ point ++ (splitPoint symbols).2 := by
  have split := List.takeWhile_append_dropWhile (p := (· != '.')) (l := symbols)
  have first := List.head?_dropWhile_not (· != '.') symbols
  rw [splitPoint]
  cases rest : symbols.dropWhile (· != '.') with
  | nil => exact ⟨[], .inr ⟨rfl, rfl⟩, by simpa [rest] using split.symm⟩
  | cons c fraction =>
    have point : c = '.' := by simpa [rest] using first
    exact ⟨['.'], .inl rfl, by simpa [rest, point] using split.symm⟩

theorem groupingOf_append_cons {high low : List Char} (last : ',' ∉ low) :
    groupingOf (high ++ ',' :: low) = if 0 < low.length then some low.length else none := by
  have behind : ((high ++ ',' :: low).reverse.takeWhile (· != ',')).length = low.length := by
    have others : ∀ c ∈ low.reverse, (c != ',') = true := by
      intro c member
      simpa using ne_of_mem_of_not_mem (List.mem_reverse.1 member) last
    simp [List.takeWhile_append_of_pos others]
  have comma : (high ++ ',' :: low).contains ',' = true := by simp
  rw [groupingOf, if_pos comma]
  simp only [behind]

theorem exists_last_comma {symbols : List Char} (comma : ',' ∈ symbols) :
    ∃ high low, symbols = high ++ ',' :: low ∧ ',' ∉ low := by
  obtain ⟨low, high, reversed, last⟩ := List.eq_append_cons_of_mem (List.mem_reverse.2 comma)
  refine ⟨high.reverse, low.reverse, ?_, by simpa using last⟩
  simpa using congrArg List.reverse reversed

theorem groupingOf_eq_some_iff (symbols : List Char) (size : Nat) :
    groupingOf symbols = some size ↔
      0 < size ∧ ∃ high low, symbols = high ++ ',' :: low ∧ ',' ∉ low ∧ low.length = size := by
  constructor
  next =>
    intro found
    by_cases comma : ',' ∈ symbols
    next =>
      obtain ⟨high, low, rfl, last⟩ := exists_last_comma comma
      rw [groupingOf_append_cons last, Option.ite_none_right_eq_some, Option.some_inj] at found
      obtain ⟨positive, rfl⟩ := found
      exact ⟨positive, high, low, rfl, last, rfl⟩
    next => simp [groupingOf, comma] at found
  next =>
    rintro ⟨positive, high, low, rfl, last, rfl⟩
    rw [groupingOf_append_cons last, if_pos positive]

def numberSymbols : List Char := ['#', '0', ',', '.']

theorem mem_numberSymbols_iff {c : Char} : c ∈ numberSymbols ↔ isNumberSymbol c = true := by
  simp [numberSymbols, isNumberSymbol_iff]

def ofRun (before run after : List Char) : DecimalPattern :=
  { before, after
    minInteger := (splitPoint run).1.count '0'
    grouping := groupingOf (splitPoint run).1
    minFraction := (splitPoint run).2.count '0'
    maxFraction := (splitPoint run).2.length }

open Text (IsFirstRun)

variable {text before run after : List Char} {pattern : DecimalPattern}

theorem isFirstRun_iff :
    IsFirstRun numberSymbols text before run after ↔
      run ≠ [] ∧ before = text.takeWhile (fun c => !isNumberSymbol c) ∧
        run = (text.dropWhile fun c => !isNumberSymbol c).takeWhile isNumberSymbol ∧
        after = (text.dropWhile fun c => !isNumberSymbol c).dropWhile isNumberSymbol := by
  constructor
  next =>
    rintro ⟨whole, nonempty, outside, inside, stops⟩
    simp only [mem_numberSymbols_iff, Bool.not_eq_true] at outside inside stops
    obtain ⟨first, others, split⟩ := List.exists_cons_of_ne_nil nonempty
    have begins : isNumberSymbol first = true := inside first (by simp [split])
    have rest : text.dropWhile (fun c => !isNumberSymbol c) = run ++ after := by
      rw [whole, List.append_assoc, List.dropWhile_append_of_pos (by simpa using outside), split,
        List.cons_append, List.dropWhile_cons_of_neg (by simp [begins])]
    rw [rest, List.takeWhile_append_of_pos inside, List.dropWhile_append_of_pos inside, whole,
      List.append_assoc, List.takeWhile_append_of_pos (by simpa using outside), split,
      List.cons_append, List.takeWhile_cons_of_neg (by simp [begins])]
    refine ⟨by simp, by simp, ?_, ?_⟩ <;> cases after with
    | nil => simp
    | cons c later => simp [stops c rfl]
  next =>
    rintro ⟨nonempty, rfl, rfl, rfl⟩
    refine ⟨?_, nonempty, fun c member => ?_, fun c member => ?_, fun c head => ?_⟩
    next => rw [List.append_assoc, List.takeWhile_append_dropWhile, List.takeWhile_append_dropWhile]
    next =>
      rw [mem_numberSymbols_iff]
      simpa using List.mem_takeWhile_imp member
    next => exact mem_numberSymbols_iff.2 (List.mem_takeWhile_imp member)
    next =>
      have stops := List.head?_dropWhile_not isNumberSymbol
        (text.dropWhile fun c => !isNumberSymbol c)
      rw [head] at stops
      rw [mem_numberSymbols_iff]
      simpa using stops

theorem parse?_eq_some_iff :
    parse? text = some pattern ↔
      ∃ before run after, IsFirstRun numberSymbols (text.takeWhile (· != ';')) before run after ∧
        isIntegerPart (splitPoint run).1 = true ∧ isFractionPart (splitPoint run).2 = true ∧
        pattern = ofRun before run after := by
  simp only [parse?, isFirstRun_iff]
  constructor
  next =>
    intro parsed
    split at parsed
    next accepted =>
      simp only [Bool.and_eq_true, Bool.not_eq_true', List.isEmpty_eq_false_iff] at accepted
      obtain ⟨⟨nonempty, integer⟩, fraction⟩ := accepted
      exact ⟨_, _, _, ⟨nonempty, rfl, rfl, rfl⟩, integer, fraction, (Option.some.inj parsed).symm⟩
    next => cases parsed
  next =>
    rintro ⟨_, _, _, ⟨nonempty, rfl, rfl, rfl⟩, integer, fraction, rfl⟩
    rw [if_pos (by simp [nonempty, integer, fraction])]
    rfl

theorem mem_splitPoint (first : IsFirstRun numberSymbols text before run after) :
    (∀ c ∈ (splitPoint run).1, c = '#' ∨ c = '0' ∨ c = ',') ∧
      ∀ c ∈ (splitPoint run).2, c = '#' ∨ c = '0' ∨ c = ',' ∨ c = '.' := by
  have symbol : ∀ c ∈ run, c = '#' ∨ c = '0' ∨ c = ',' ∨ c = '.' := by
    simpa [numberSymbols] using first.run
  constructor
  next =>
    intro c member
    have notPoint : c ≠ '.' := by simpa using List.mem_takeWhile_imp member
    simpa [notPoint] using symbol c ((List.takeWhile_prefix _).mem member)
  next =>
    intro c member
    exact symbol c ((List.dropWhile_suffix _).mem (List.mem_of_mem_tail member))

theorem describes_ofRun
    (first : IsFirstRun numberSymbols (text.takeWhile (· != ';')) before run after)
    (accepted : isFractionPart (splitPoint run).2 = true) :
    Describes text (splitPoint run).1 (splitPoint run).2 (ofRun before run after) := by
  simp only [isFractionPart, Bool.and_eq_true, Bool.not_eq_true', List.contains_eq_mem,
    decide_eq_false_iff_not] at accepted
  obtain ⟨⟨noPoint, noComma⟩, -⟩ := accepted
  obtain ⟨integerSymbols, fractionSymbols⟩ := mem_splitPoint first
  obtain ⟨point, hasPoint, symbolsAre⟩ := splitPoint_layout run
  exact {
    layout := ⟨point, hasPoint, symbolsAre ▸ first.nonempty, symbolsAre ▸ first.whole⟩
    before := fun c member => by simpa [mem_numberSymbols_iff] using first.before c member
    after := fun c head => by simpa [mem_numberSymbols_iff] using first.after c head
    integerSymbols
    fractionSymbols := fun c member => by
      simpa [ne_of_mem_of_not_mem member noPoint, ne_of_mem_of_not_mem member noComma]
        using fractionSymbols c member
    minInteger := rfl
    grouping := groupingOf_eq_some_iff _
    minFraction := rfl
    maxFraction := rfl }

theorem describes_of_parse? (parsed : parse? text = some pattern) :
    ∃ integer fraction, Describes text integer fraction pattern := by
  obtain ⟨before, run, after, first, -, accepted, rfl⟩ := parse?_eq_some_iff.1 parsed
  exact ⟨_, _, describes_ofRun first accepted⟩

end Stencil.DecimalPattern
