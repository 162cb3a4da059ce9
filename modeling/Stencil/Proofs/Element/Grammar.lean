import Stencil.Proofs.Element.Spelling
import Stencil.Proofs.Value.Integers

set_option autoImplicit false

namespace Stencil.Element

/-- Whether a word spells an element, by the rule for elements of its kind. -/
inductive Spells : List Char → Element → Prop
  | call {name : List Char} (identifier : Text.isIdentifier name = true) :
      Spells ('@' :: name) (.call (String.ofList name))
  | operator {c : Char} {op : Operator}
      (symbol : (c, op) ∈ [('+', .add), ('-', .subtract), ('*', .multiply), ('/', .divide)]) :
      Spells [c] (.operator op)
  | integer {word digits : List Char} {n : Int64} (some : digits ≠ [])
      (decimal : ∀ c ∈ digits, c.isDigit = true)
      (signed : word = digits ∧ n.toInt = Number.digitsValue digits ∨
        word = '-' :: digits ∧ n.toInt = -(Number.digitsValue digits : Int)) :
      Spells word (.integer n)
  | double {word : List Char} {x : Float}
      (starts : ∃ c rest, c.isDigit = true ∧ (word = c :: rest ∨ word = '-' :: c :: rest))
      (fractional : '.' ∈ word ∨ 'e' ∈ word ∨ 'E' ∈ word) (read : Number.readFloat? word = some x)
      (finite : Number.Binary64.isFinite x = true) :
      Spells word (.double x)
  | var {name : List Char} (identifier : Text.isIdentifier name = true) :
      Spells name (.var (String.ofList name))
  | text {inner content : List Char} (resolves : Text.Quoted.Resolves inner content) :
      Spells ('"' :: (inner ++ ['"'])) (.text (String.ofList content))

def asText? (word : List Char) : Option Element :=
  (ofQuoted word).toOption

def asCall? (word : List Char) : Option Element :=
  if word.head? = some '@' then (ofCall word).toOption else none

def asNumber? (word : List Char) : Option Element :=
  if looksNumeric word then ofNumber? word else none

def asVariable? (word : List Char) : Option Element :=
  if Text.isIdentifier word then some (var (String.ofList word)) else none

def checks : List (List Char → Option Element) :=
  [asText?, asCall?, ofOperator?, asNumber?, asVariable?]

variable {word : List Char} {element : Element}

theorem toOption_eq_some_iff {ε α : Type} {result : Except ε α} {value : α} :
    result.toOption = some value ↔ result = .ok value := by
  cases result <;> simp [Except.toOption]

theorem asText?_eq_some_iff :
    asText? word = some element ↔ ∃ inner content, word = '"' :: (inner ++ ['"']) ∧
      Text.Quoted.Resolves inner content ∧ element = text (String.ofList content) := by
  rw [asText?, toOption_eq_some_iff]
  constructor
  next =>
    intro read
    obtain ⟨content, rfl, decoded⟩ := ofQuoted_eq_ok read
    obtain ⟨inner, rfl, resolves⟩ := Text.Quoted.decode_eq_ok_iff.1 decoded
    exact ⟨inner, content, rfl, resolves, rfl⟩
  next =>
    rintro ⟨inner, content, rfl, resolves, rfl⟩
    rw [ofQuoted, Text.Quoted.decode_eq_ok_iff.2 ⟨inner, rfl, resolves⟩]

theorem asCall?_eq_some_iff :
    asCall? word = some element ↔ ∃ name, word = '@' :: name ∧ Text.isIdentifier name = true ∧
      element = call (String.ofList name) := by
  rw [asCall?, Option.ite_none_right_eq_some, toOption_eq_some_iff, ofCall]
  constructor
  next =>
    rintro ⟨mark, read⟩
    obtain ⟨name, rfl⟩ := List.head?_eq_some_iff.1 mark
    rw [List.tail_cons] at read
    split at read <;> cases read
    next identifier => exact ⟨name, rfl, identifier, rfl⟩
  next =>
    rintro ⟨name, rfl, identifier, rfl⟩
    exact ⟨rfl, if_pos identifier⟩

theorem ofSymbol?_eq_some_iff {c : Char} {op : Operator} :
    Operator.ofSymbol? c = some op ↔
      (c, op) ∈ [('+', .add), ('-', .subtract), ('*', .multiply), ('/', .divide)] := by
  constructor
  next =>
    intro found
    unfold Operator.ofSymbol? at found
    split at found <;> cases found <;> decide
  next =>
    intro found
    simp only [List.mem_cons, List.not_mem_nil, or_false, Prod.mk.injEq] at found
    rcases found with ⟨rfl, rfl⟩ | ⟨rfl, rfl⟩ | ⟨rfl, rfl⟩ | ⟨rfl, rfl⟩ <;> rfl

theorem ofOperator?_eq_some_iff :
    ofOperator? word = some element ↔
      ∃ c op, word = [c] ∧ Operator.ofSymbol? c = some op ∧ element = operator op := by
  constructor
  next =>
    intro read
    unfold ofOperator? at read
    split at read
    next c =>
      obtain ⟨op, found, rfl⟩ := Option.map_eq_some_iff.1 read
      exact ⟨c, op, rfl, found, rfl⟩
    next => cases read
  next =>
    rintro ⟨c, op, rfl, found, rfl⟩
    rw [ofOperator?, found]
    rfl

-- Behind a digit, or a minus and a digit, an integer has no plus.
theorem readInt64?_eq_some_iff_of_looksNumeric (numeric : looksNumeric word = true) {n : Int64} :
    Number.readInt64? word = some n ↔ ∃ digits, digits ≠ [] ∧ (∀ c ∈ digits, c.isDigit = true) ∧
      (word = digits ∧ n.toInt = Number.digitsValue digits ∨
        word = '-' :: digits ∧ n.toInt = -(Number.digitsValue digits : Int)) := by
  rw [Number.readInt64?_eq_some_iff]
  constructor
  next =>
    intro spelled
    generalize value : n.toInt = k at spelled
    cases spelled with
    | plain some decimal => exact ⟨word, some, decimal, .inl ⟨rfl, rfl⟩⟩
    | plus some decimal =>
      obtain ⟨c, rest, digit, same | same⟩ := exists_digit_of_looksNumeric numeric <;> cases same
      exact absurd digit (by decide)
    | @minus digits some decimal => exact ⟨digits, some, decimal, .inr ⟨rfl, rfl⟩⟩
  next =>
    rintro ⟨digits, some, decimal, ⟨rfl, value⟩ | ⟨rfl, value⟩⟩ <;> rw [value]
    next => exact .plain some decimal
    next => exact .minus some decimal

theorem looksNumeric_iff :
    looksNumeric word = true ↔
      ∃ c rest, c.isDigit = true ∧ (word = c :: rest ∨ word = '-' :: c :: rest) := by
  refine ⟨exists_digit_of_looksNumeric, ?_⟩
  rintro ⟨c, rest, digit, rfl | rfl⟩
  next => exact looksNumeric_of_isDigit digit rest
  next => exact (looksNumeric_minus c rest).trans digit

theorem asNumber?_eq_some_iff :
    asNumber? word = some element ↔
      (∃ n, Spells word (.integer n) ∧ element = .integer n) ∨
        ∃ x, Spells word (.double x) ∧ element = .double x := by
  rw [asNumber?, Option.ite_none_right_eq_some, ofNumber?]
  constructor
  next =>
    rintro ⟨numeric, read⟩
    split at read
    next fractional =>
      obtain ⟨x, found, rfl⟩ := Option.map_eq_some_iff.1 read
      obtain ⟨found, finite⟩ := Option.filter_eq_some_iff.1 found
      refine .inr ⟨x, .double (looksNumeric_iff.1 numeric) ?_ found finite, rfl⟩
      exact Number.looksFractional_iff.1 fractional
    next =>
      obtain ⟨n, found, rfl⟩ := Option.map_eq_some_iff.1 read
      obtain ⟨digits, some, decimal, signed⟩ :=
        (readInt64?_eq_some_iff_of_looksNumeric numeric).1 found
      exact .inl ⟨n, .integer some decimal signed, rfl⟩
  next =>
    rintro (⟨n, spells, rfl⟩ | ⟨x, spells, rfl⟩)
    next =>
      cases spells with
      | integer nonempty decimal signed =>
        have numeric : looksNumeric word = true := by
          obtain ⟨c, rest, rfl⟩ := List.exists_cons_of_ne_nil nonempty
          have digit := decimal c List.mem_cons_self
          exact looksNumeric_iff.2 ⟨c, rest, digit, signed.imp And.left And.left⟩
        have read := (readInt64?_eq_some_iff_of_looksNumeric numeric).2
          ⟨_, nonempty, decimal, signed⟩
        have whole := Number.looksFractional_of_spellsInteger (Number.readInt64?_eq_some_iff.1 read)
        simp [numeric, whole, read]
    next =>
      cases spells with
      | double starts fractional read finite =>
        simp [looksNumeric_iff.2 starts, Number.looksFractional_iff.2 fractional, read, finite]

theorem spells_of_check (check : List Char → Option Element) (member : check ∈ checks)
    (found : check word = some element) : Spells word element := by
  simp only [checks, List.mem_cons, List.not_mem_nil, or_false] at member
  rcases member with rfl | rfl | rfl | rfl | rfl
  next =>
    obtain ⟨inner, content, rfl, resolves, rfl⟩ := asText?_eq_some_iff.1 found
    exact .text resolves
  next =>
    obtain ⟨name, rfl, identifier, rfl⟩ := asCall?_eq_some_iff.1 found
    exact .call identifier
  next =>
    obtain ⟨c, op, rfl, symbol, rfl⟩ := ofOperator?_eq_some_iff.1 found
    exact .operator (ofSymbol?_eq_some_iff.1 symbol)
  next =>
    obtain ⟨n, spells, rfl⟩ | ⟨x, spells, rfl⟩ := asNumber?_eq_some_iff.1 found
    next => exact spells
    next => exact spells
  next =>
    obtain ⟨identifier, same⟩ := Option.ite_none_right_eq_some.1 found
    obtain rfl := Option.some.inj same
    exact .var identifier

theorem exists_check_of_spells (spells : Spells word element) :
    ∃ check ∈ checks, check word = some element := by
  cases spells with
  | text resolves =>
    exact ⟨asText?, by simp [checks], asText?_eq_some_iff.2 ⟨_, _, rfl, resolves, rfl⟩⟩
  | call identifier =>
    exact ⟨asCall?, by simp [checks], asCall?_eq_some_iff.2 ⟨_, rfl, identifier, rfl⟩⟩
  | operator symbol =>
    exact ⟨ofOperator?, by simp [checks],
      ofOperator?_eq_some_iff.2 ⟨_, _, rfl, ofSymbol?_eq_some_iff.2 symbol, rfl⟩⟩
  | integer nonempty decimal signed =>
    exact ⟨asNumber?, by simp [checks],
      asNumber?_eq_some_iff.2 (.inl ⟨_, .integer nonempty decimal signed, rfl⟩)⟩
  | double starts fractional read finite =>
    exact ⟨asNumber?, by simp [checks],
      asNumber?_eq_some_iff.2 (.inr ⟨_, .double starts fractional read finite, rfl⟩)⟩
  | var identifier => exact ⟨asVariable?, by simp [checks], if_pos identifier⟩

theorem ofWord_of_spells (spells : Spells word element) : ofWord word = .ok element := by
  cases spells with
  | text resolves =>
    rw [ofWord, if_pos List.head?_cons]
    exact toOption_eq_some_iff.1 (asText?_eq_some_iff.2 ⟨_, _, rfl, resolves, rfl⟩)
  | call identifier =>
    rw [ofWord, if_neg (by simp), if_pos List.head?_cons, ofCall, List.tail_cons, if_pos identifier]
  | operator symbol =>
    simp only [List.mem_cons, List.not_mem_nil, or_false, Prod.mk.injEq] at symbol
    rcases symbol with ⟨rfl, rfl⟩ | ⟨rfl, rfl⟩ | ⟨rfl, rfl⟩ | ⟨rfl, rfl⟩ <;> rfl
  | integer nonempty decimal signed =>
    obtain ⟨numeric, read⟩ := Option.ite_none_right_eq_some.1
      (asNumber?_eq_some_iff.2 (.inl ⟨_, .integer nonempty decimal signed, rfl⟩))
    exact ofWord_of_looksNumeric numeric read
  | double starts fractional read finite =>
    obtain ⟨numeric, read⟩ := Option.ite_none_right_eq_some.1
      (asNumber?_eq_some_iff.2 (.inr ⟨_, .double starts fractional read finite, rfl⟩))
    exact ofWord_of_looksNumeric numeric read
  | var identifier =>
    have read := @ofWord_of_isIdentifier (String.ofList word) (by simpa using identifier)
    rwa [String.toList_ofList] at read

theorem spells_of_ofWord (read : ofWord word = .ok element) : Spells word element := by
  unfold ofWord at read
  split at read
  next => exact spells_of_check asText? (by simp [checks]) (toOption_eq_some_iff.2 read)
  next =>
    split at read
    next mark =>
      refine spells_of_check asCall? (by simp [checks]) ?_
      rw [asCall?, if_pos mark, read]
      rfl
    next =>
      split at read
      next found =>
        cases read
        exact spells_of_check ofOperator? (by simp [checks]) found
      next =>
        split at read
        next numeric =>
          split at read <;> cases read
          next found =>
            exact spells_of_check asNumber? (by simp [checks])
              ((if_pos numeric).trans found)
        next =>
          split at read <;> cases read
          next identifier => exact .var identifier

theorem ofWord_eq_ok_iff : ofWord word = .ok element ↔ Spells word element :=
  ⟨spells_of_ofWord, ofWord_of_spells⟩

theorem Spells.unique {other : Element} (spells : Spells word element)
    (spellsOther : Spells word other) : element = other :=
  Except.ok.inj ((ofWord_of_spells spells).symm.trans (ofWord_of_spells spellsOther))

-- Since no two checks give different elements, the first that gives one gives the only one.
theorem findSome?_checks {order : List (List Char → Option Element)} (perm : order.Perm checks)
    (word : List Char) : order.findSome? (· word) = (ofWord word).toOption := by
  refine Option.ext fun element => ?_
  rw [toOption_eq_some_iff, ofWord_eq_ok_iff]
  constructor
  next =>
    intro found
    obtain ⟨check, member, found⟩ := List.exists_of_findSome?_eq_some found
    exact spells_of_check check (perm.mem_iff.1 member) found
  next =>
    intro spells
    obtain ⟨check, member, found⟩ := exists_check_of_spells spells
    cases first : order.findSome? (· word) with
    | none =>
      have nothing := List.findSome?_eq_none_iff.1 first check (perm.mem_iff.2 member)
      rw [found] at nothing
      cases nothing
    | some other =>
      obtain ⟨check', member', found'⟩ := List.exists_of_findSome?_eq_some first
      rw [(spells_of_check check' (perm.mem_iff.1 member') found').unique spells]

/-- A word is read as an element exactly if it spells it by the rule for one of the six kinds, and
is an error if it spells none. No word spells two elements, and so the checks may be made in any
order. What an element is written as is read as that element again. -/
theorem ofWord_in_any_order (word : List Char) :
    (∀ element, ofWord word = .ok element ↔ Spells word element) ∧
      ((∀ element, ¬ Spells word element) → ∃ cause, ofWord word = .error cause) ∧
      (∀ element other, Spells word element → Spells word other → element = other) ∧
      (∀ order : List (List Char → Option Element), order.Perm checks →
        order.findSome? (· word) = (ofWord word).toOption) ∧
      ∀ element, ofWord word = .ok element → ofWord element.source = .ok element := by
  refine ⟨fun _ => ofWord_eq_ok_iff, fun spellsNone => ?_, fun _ _ => Spells.unique,
    fun _ perm => findSome?_checks perm word,
    fun _ read => ofWord_source (isWritable_of_ofWord read)⟩
  cases read : ofWord word with
  | ok element => exact absurd (spells_of_ofWord read) (spellsNone element)
  | error cause => exact ⟨cause, rfl⟩

theorem ofWord_in_any_order_at_minValue :
    ofWord "-9223372036854775808".toList = .ok (.integer Int64.minValue) ∧
      Spells "-9223372036854775808".toList (.integer Int64.minValue) ∧
      ofWord (integer Int64.minValue).source = .ok (.integer Int64.minValue) ∧
      (∃ cause, ofWord "-9223372036854775809".toList = .error cause) ∧
      checks.reverse.findSome? (· ['"', 'a', '\\', '"', '"']) = some (.text "a\"") := by
  have read : ofWord "-9223372036854775808".toList = .ok (.integer Int64.minValue) := by
    decide +kernel
  have below : ofWord "-9223372036854775809".toList = .error (.number "-9223372036854775809") := by
    decide +kernel
  have quoted : ofWord ['"', 'a', '\\', '"', '"'] = .ok (.text "a\"") := by decide +kernel
  obtain ⟨spells, -, -, -, again⟩ := ofWord_in_any_order "-9223372036854775808".toList
  obtain ⟨spellsBelow, refused, -⟩ := ofWord_in_any_order "-9223372036854775809".toList
  have inAnyOrder := (ofWord_in_any_order ['"', 'a', '\\', '"', '"']).2.2.2.1
  refine ⟨read, (spells _).1 read, again _ read, refused fun element found => ?_, ?_⟩
  next => rw [← spellsBelow, below] at found; cases found
  next => rw [inAnyOrder _ checks.reverse_perm, quoted]; rfl

end Stencil.Element
