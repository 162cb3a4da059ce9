import Stencil.Element.Word
import Stencil.Proofs.Number.RoundTrip
import Stencil.Proofs.Text.Name
import Stencil.Proofs.Text.Quoted

set_option autoImplicit false

namespace Stencil.Element

open ParseError (Cause)

def isWritable : Element → Bool
  | var name | call name => Text.isIdentifier name.toList
  | double x => Number.Binary64.isFinite x
  | operator _ | text _ | integer _ => true

theorem looksNumeric_of_isDigit {c : Char} (digit : c.isDigit = true) (rest : List Char) :
    looksNumeric (c :: rest) = true := by
  unfold looksNumeric
  split
  next same => cases same; exact absurd digit (by decide)
  next same => cases same; exact digit
  next same => cases same

theorem looksNumeric_minus (c : Char) (rest : List Char) :
    looksNumeric ('-' :: c :: rest) = c.isDigit := rfl

theorem exists_digit_of_looksNumeric {word : List Char} (numeric : looksNumeric word = true) :
    ∃ c rest, c.isDigit = true ∧ (word = c :: rest ∨ word = '-' :: c :: rest) := by
  unfold looksNumeric at numeric
  split at numeric
  next c rest => exact ⟨c, rest, numeric, .inr rfl⟩
  next c rest _ => exact ⟨c, rest, numeric, .inl rfl⟩
  next => cases numeric

theorem ofSymbol?_eq_none {c : Char} (add : c ≠ '+') (subtract : c ≠ '-') (multiply : c ≠ '*')
    (divide : c ≠ '/') : Operator.ofSymbol? c = none := by
  unfold Operator.ofSymbol?
  split <;> first | contradiction | rfl

theorem ofOperator?_cons_eq_none {c : Char} {rest : List Char}
    (noSymbol : Operator.ofSymbol? c = none) : ofOperator? (c :: rest) = none := by
  cases rest <;> simp [ofOperator?, noSymbol]

theorem ofWord_of_looksNumeric {word : List Char} {element : Element}
    (numeric : looksNumeric word = true) (read : ofNumber? word = some element) :
    ofWord word = .ok element := by
  obtain ⟨c, rest, digit, rfl | rfl⟩ := exists_digit_of_looksNumeric numeric
  next =>
    -- A digit in front rules the other classes out one by one; a minus needs the digit behind it.
    have other {d : Char} (notDigit : d.isDigit = false) : c ≠ d :=
      Number.ne_of_isDigit digit notDigit
    have noOperator : ofOperator? (c :: rest) = none :=
      ofOperator?_cons_eq_none (ofSymbol?_eq_none (other rfl) (other rfl) (other rfl) (other rfl))
    simp [ofWord, other (d := '"') rfl, other (d := '@') rfl, noOperator, numeric, read]
  next =>
    simp [ofWord, ofOperator?, numeric, read]

theorem ofWord_of_isIdentifier {name : String} (identifier : Text.isIdentifier name.toList = true) :
    ofWord name.toList = .ok (var name) := by
  obtain ⟨c, rest, spelled, letter, -⟩ := Text.isIdentifier_iff.1 identifier
  have other {d : Char} (noLetter : Text.isAlphabetic d = false) : c ≠ d := by
    rintro rfl
    exact Bool.false_ne_true (noLetter.symm.trans letter)
  have notDigit : c.isDigit = false := by
    refine Bool.eq_false_iff.2 fun digit => Bool.false_ne_true ?_
    exact (Text.isAlphabetic_eq_false_of_isDigit digit).symm.trans letter
  have noOperator : ofOperator? (c :: rest) = none :=
    ofOperator?_cons_eq_none (ofSymbol?_eq_none (other (by decide)) (other (by decide))
      (other (by decide)) (other (by decide)))
  have noNumber : looksNumeric (c :: rest) = false := by
    unfold looksNumeric
    split
    next same => cases same; exact absurd rfl (other (by decide))
    next same => cases same; exact notDigit
    next => rfl
  have back : String.ofList (c :: rest) = name := by rw [← spelled, String.ofList_toList]
  rw [spelled] at identifier ⊢
  simp [ofWord, other (d := '"') (by decide), other (d := '@') (by decide), noOperator, noNumber,
    identifier, back]

theorem readable_constant : Number.DoubleStyle.constant.Readable :=
  .inl rfl

theorem looksNumeric_integerText (n : Int) : looksNumeric (Number.integerText n) = true := by
  cases spelled : Number.natText n.natAbs with
  | nil => exact absurd spelled (Number.natText_ne_nil _)
  | cons c rest =>
    have member : c ∈ Number.natText n.natAbs := by simp [spelled]
    have digit : c.isDigit = true := Number.isDigit_of_mem_natText member
    unfold Number.integerText
    rw [spelled]
    split
    next => exact (looksNumeric_minus c rest).trans digit
    next => exact looksNumeric_of_isDigit digit rest

theorem looksNumeric_doubleText (style : Number.DoubleStyle) {x : Float}
    (finite : Number.Binary64.isFinite x = true) :
    looksNumeric (Number.doubleText style x) = true := by
  obtain ⟨c, rest, spelled, digit⟩ := Number.exists_decimalText_eq_cons style
    (Number.Decimal.shortest (Number.Binary64.magnitudeBits x))
  simp only [Number.doubleText, if_pos (of_decide_eq_true finite), spelled]
  split
  next => exact (looksNumeric_minus c rest).trans digit
  next => exact looksNumeric_of_isDigit digit rest

theorem ofWord_source {element : Element} (writable : element.isWritable = true) :
    ofWord element.source = .ok element := by
  cases element with
  | var name => exact ofWord_of_isIdentifier writable
  | call name =>
    have identifier : Text.isIdentifier name.toList = true := writable
    simp [source, ofWord, ofCall, identifier]
  | operator op => cases op <;> rfl
  | text content =>
    have quoted : (Text.Quoted.encode content.toList).head? = some '"' := rfl
    rw [source, ofWord, if_pos quoted, ofQuoted, Text.Quoted.decode_encode]
    simp
  | integer n =>
    refine ofWord_of_looksNumeric (looksNumeric_integerText _) ?_
    simp [source, ofNumber?, Number.looksFractional_integerText, Number.readInt64?_integerText]
  | double x =>
    have finite : Number.Binary64.isFinite x = true := writable
    refine ofWord_of_looksNumeric (looksNumeric_doubleText _ finite) ?_
    simp [source, ofNumber?, Number.looksFractional_doubleText readable_constant finite,
      Number.readFloat?_doubleText readable_constant finite, finite]

theorem ofNumber?_eq_some {word : List Char} {element : Element}
    (read : ofNumber? word = some element) :
    (∃ x, element = double x ∧ Number.Binary64.isFinite x = true) ∨ ∃ n, element = integer n := by
  unfold ofNumber? at read
  split at read
  next =>
    obtain ⟨x, found, rfl⟩ := Option.map_eq_some_iff.1 read
    exact .inl ⟨x, rfl, (Option.filter_eq_some_iff.1 found).2⟩
  next =>
    obtain ⟨n, -, rfl⟩ := Option.map_eq_some_iff.1 read
    exact .inr ⟨n, rfl⟩

theorem ofQuoted_eq_ok {word : List Char} {element : Element} (read : ofQuoted word = .ok element) :
    ∃ content, element = text (String.ofList content) ∧ Text.Quoted.decode word = .ok content := by
  unfold ofQuoted at read
  split at read <;> cases read
  next content decoded => exact ⟨content, rfl, decoded⟩

theorem ofOperator?_eq_some {word : List Char} {element : Element}
    (read : ofOperator? word = some element) : ∃ op, element = operator op := by
  unfold ofOperator? at read
  split at read
  next =>
    obtain ⟨op, -, rfl⟩ := Option.map_eq_some_iff.1 read
    exact ⟨op, rfl⟩
  next => cases read

theorem ofWord_eq_ok {word : List Char} {element : Element} (read : ofWord word = .ok element) :
    (∃ content, element = text (String.ofList content) ∧ Text.Quoted.decode word = .ok content) ∨
      (element = call (String.ofList word.tail) ∧ Text.isIdentifier word.tail = true) ∨
      (∃ op, element = operator op) ∨
      ((∃ x, element = double x ∧ Number.Binary64.isFinite x = true) ∨ ∃ n, element = integer n) ∨
      (element = var (String.ofList word) ∧ Text.isIdentifier word = true) := by
  unfold ofWord ofCall at read
  split at read
  next => exact .inl (ofQuoted_eq_ok read)
  next =>
    split at read
    next =>
      split at read <;> cases read
      next identifier => exact .inr (.inl ⟨rfl, identifier⟩)
    next =>
      split at read
      next found =>
        cases read
        exact .inr (.inr (.inl (ofOperator?_eq_some found)))
      next =>
        split at read
        next =>
          split at read <;> cases read
          next found => exact .inr (.inr (.inr (.inl (ofNumber?_eq_some found))))
        next =>
          split at read <;> cases read
          next identifier => exact .inr (.inr (.inr (.inr ⟨rfl, identifier⟩)))

theorem isWritable_of_ofWord {word : List Char} {element : Element}
    (read : ofWord word = .ok element) : element.isWritable = true := by
  rcases ofWord_eq_ok read with ⟨content, rfl, -⟩ | ⟨rfl, identifier⟩ | ⟨op, rfl⟩ |
    (⟨x, rfl, finite⟩ | ⟨n, rfl⟩) | ⟨rfl, identifier⟩
  next => rfl
  next => rwa [isWritable, String.toList_ofList]
  next => rfl
  next => exact finite
  next => rfl
  next => rwa [isWritable, String.toList_ofList]

theorem isUnbroken_of_ofWord {word : List Char} {content : String}
    (unblank : ∀ c ∈ word, Text.isBlank c = false) (read : ofWord word = .ok (text content)) :
    Text.Quoted.isUnbroken content.toList = true := by
  rcases ofWord_eq_ok read with ⟨_, same, decoded⟩ | ⟨same, -⟩ | ⟨_, same⟩ |
    (⟨_, same, -⟩ | ⟨_, same⟩) | ⟨same, -⟩ <;> cases same
  rw [String.toList_ofList]
  exact Text.Quoted.isUnbroken_of_decode unblank decoded

end Stencil.Element
