import Stencil.Document.Writer
import Stencil.Proofs.Fallible
import Stencil.Proofs.Tag.Scan
import Stencil.Proofs.Text.Words
import Stencil.Tag

set_option autoImplicit false

namespace Stencil

def Tag.isPlain (c : Char) : Bool :=
  !(Text.isBlank c || ['"', '$', '@', '+', '*'].contains c)

namespace Element

open Tag (isPlain)

theorem isPlain_of_isNameCharacter {c : Char} (name : Text.isNameCharacter c = true) :
    isPlain c = true := by
  have other {d : Char} (noName : Text.isNameCharacter d = false) : c ≠ d := by
    rintro rfl
    exact Bool.false_ne_true (noName.symm.trans name)
  have unblank := Text.isBlank_eq_false_of_isNameCharacter name
  simp [isPlain, unblank, other (d := '"') (by decide), other (d := '$') (by decide),
    other (d := '@') (by decide), other (d := '+') (by decide), other (d := '*') (by decide)]

theorem isPlain_of_isDigit {c : Char} (digit : c.isDigit = true) : isPlain c = true := by
  have unblank := Text.isBlank_eq_false_of_isDigit digit
  have other {d : Char} (notDigit : d.isDigit = false) : c ≠ d :=
    Number.ne_of_isDigit digit notDigit
  simp [isPlain, unblank, other (d := '"') rfl, other (d := '$') rfl, other (d := '@') rfl,
    other (d := '+') rfl, other (d := '*') rfl]

theorem isPlain_of_mem_integerText {n : Int} {c : Char} (member : c ∈ Number.integerText n) :
    isPlain c = true := by
  rcases Number.mem_integerText member with digit | rfl
  next => exact isPlain_of_isDigit digit
  next => rfl

theorem isPlain_of_uses {c : Char} (uses : Number.DoubleStyle.constant.Uses c) :
    isPlain c = true := by
  rcases uses with digit | rfl | rfl | rfl
  next => exact isPlain_of_isDigit digit
  next => rfl
  next => rfl
  next => rfl

theorem source_cases {element : Element} (writable : element.isWritable = true) :
    (element.source ≠ [] ∧ ∀ c ∈ element.source, isPlain c = true) ∨
      (∃ name, element.source = '@' :: name ∧ ∀ c ∈ name, isPlain c = true) ∨
      (element.source = ['+'] ∨ element.source = ['*']) ∨
      ∃ content, element = text content := by
  cases element with
  | var name =>
    obtain ⟨c, rest, spelled, -⟩ := Text.isIdentifier_iff.1 writable
    refine .inl ⟨by simp [source, spelled], fun c member => ?_⟩
    exact isPlain_of_isNameCharacter (Text.isNameCharacter_of_mem writable c member)
  | call name =>
    refine .inr (.inl ⟨name.toList, rfl, fun c member => ?_⟩)
    exact isPlain_of_isNameCharacter (Text.isNameCharacter_of_mem writable c member)
  | operator op =>
    cases op with
    | add => exact .inr (.inr (.inl (.inl rfl)))
    | multiply => exact .inr (.inr (.inl (.inr rfl)))
    | subtract => exact .inl ⟨by simp [source], List.forall_mem_singleton.2 rfl⟩
    | divide => exact .inl ⟨by simp [source], List.forall_mem_singleton.2 rfl⟩
  | text content => exact .inr (.inr (.inr ⟨content, rfl⟩))
  | integer n =>
    obtain ⟨c, rest, -, spelled⟩ := exists_digit_of_looksNumeric (looksNumeric_integerText n.toInt)
    refine .inl ⟨?_, fun c member => isPlain_of_mem_integerText member⟩
    rcases spelled with spelled | spelled <;> simp [source, spelled]
  | double x =>
    obtain ⟨c, rest, -, spelled⟩ :=
      exists_digit_of_looksNumeric (looksNumeric_doubleText .constant writable)
    refine .inl ⟨?_, fun c member => isPlain_of_uses (Number.uses_doubleText _ writable c member)⟩
    rcases spelled with spelled | spelled <;> simp [source, spelled]

theorem isBlank_eq_false_of_isPlain {word : List Char} (plain : ∀ c ∈ word, isPlain c = true) :
    ∀ c ∈ word, Text.isBlank c = false := by
  intro c member
  have := plain c member
  simp_all [isPlain]

theorem passes_of_isPlain {word : List Char} (plain : ∀ c ∈ word, isPlain c = true) :
    TagScan.Passes .outside word .outside := by
  refine TagScan.passes_outside fun c member => ?_
  have := plain c member
  constructor <;> rintro rfl <;> contradiction

theorem passes_source {element : Element} (writable : element.isWritable = true) :
    TagScan.Passes .outside element.source .outside := by
  rcases source_cases writable with ⟨-, plain⟩ | ⟨name, same, plain⟩ | (same | same) |
    ⟨content, rfl⟩
  next => exact passes_of_isPlain plain
  next =>
    have mark : TagScan.Passes .outside ['@'] .outside := TagScan.passes_outside (by simp)
    rw [same]
    exact .append mark (passes_of_isPlain plain)
  next => rw [same]; exact TagScan.passes_outside (by simp)
  next => rw [same]; exact TagScan.passes_outside (by simp)
  next => exact TagScan.passes_encode content.toList

theorem endsUnblank_source {element : Element} (writable : element.isWritable = true) :
    Text.EndsUnblank element.source := by
  rcases source_cases writable with ⟨some, plain⟩ | ⟨name, same, plain⟩ | (same | same) |
    ⟨content, rfl⟩
  next => exact Text.IsWord.endsUnblank ⟨some, isBlank_eq_false_of_isPlain plain⟩
  next =>
    rw [same]
    exact Text.IsWord.endsUnblank
      ⟨by simp, List.forall_mem_cons.2 ⟨by decide, isBlank_eq_false_of_isPlain plain⟩⟩
  next => rw [same]; exact ⟨[], '+', rfl, by decide⟩
  next => rw [same]; exact ⟨[], '*', rfl, by decide⟩
  next => exact ⟨_, '"', rfl, by decide⟩

end Element

namespace Tag

theorem splitWordsFrom_append {word : List Char} (plain : ∀ c ∈ word, isPlain c = true)
    (pending rest : List Char) :
    splitWordsFrom .outside pending (word ++ rest) =
      splitWordsFrom .outside (word.reverse ++ pending) rest := by
  induction word generalizing pending with
  | nil => rfl
  | cons c later ih =>
    obtain ⟨first, others⟩ := List.forall_mem_cons.1 plain
    simp only [isPlain, List.contains_cons, List.contains_nil, Bool.not_eq_true',
      Bool.or_eq_false_iff, beq_eq_false_iff_ne] at first
    obtain ⟨unblank, quote, -, at', plus, star, -⟩ := first
    rw [List.cons_append, splitWordsFrom, if_neg quote, if_neg at',
      if_neg (not_or.2 ⟨plus, star⟩), unblank, if_neg Bool.false_ne_true, ih others]
    simp

theorem splitWordsFrom_encoded (text pending rest : List Char) :
    splitWordsFrom .quoted pending (text.flatMap Text.Quoted.encodeCharacter ++ rest) =
      splitWordsFrom .quoted
        ((text.flatMap Text.Quoted.encodeCharacter).reverse ++ pending) rest := by
  induction text generalizing pending with
  | nil => rfl
  | cons c later ih =>
    rw [List.flatMap_cons, List.append_assoc]
    rcases Text.Quoted.encodeCharacter_cases c with ⟨same, quote, backslash, -⟩ | ⟨mark, same, -⟩
    next =>
      rw [same, List.singleton_append, splitWordsFrom, if_neg backslash, if_neg quote, ih]
      simp
    next =>
      rw [same, List.cons_append, splitWordsFrom, if_pos rfl, List.singleton_append,
        splitWordsFrom, ih]
      simp

theorem flush_nil (later : List (List Char)) : flush [] later = later := rfl

theorem map_flush_nil (result : Except ParseError.Cause (List (List Char))) :
    result.map (flush []) = result := by
  cases result <;> rfl

theorem splitWordsFrom_space (pending rest : List Char) :
    splitWordsFrom .outside pending (' ' :: rest) = (splitWords rest).map (flush pending) := by
  simp [splitWordsFrom, splitWords, Text.isBlank_space]

theorem splitWordsFrom_elementsSource (pending : List Char) (elements : List Element) :
    splitWordsFrom .outside pending (elementsSource elements) =
      (splitWords (elementsSource elements)).map (flush pending) := by
  cases elements with
  | nil => rfl
  | cons element rest =>
    simp only [elementsSource, List.flatMap_cons, List.cons_append, splitWordsFrom_space,
      splitWords, map_flush_nil]

theorem map_flush_reverse {word : List Char} (some : word ≠ [])
    (result : Except ParseError.Cause (List (List Char))) :
    result.map (flush word.reverse) = result.map (word :: ·) := by
  have same : flush word.reverse = (word :: ·) := by
    funext later
    simp [flush, some]
  rw [same]

theorem splitWords_source_append {element : Element} (writable : element.isWritable = true)
    (elements : List Element) :
    splitWords (element.source ++ elementsSource elements) =
      (splitWords (elementsSource elements)).map (element.source :: ·) := by
  -- However it is written, the scan is outside quotes behind the element, and only words that no
  -- mark has ended are pending.
  rcases Element.source_cases writable with ⟨some, plain⟩ | ⟨name, same, plain⟩ | (same | same) |
    ⟨content, rfl⟩
  next =>
    rw [splitWords, splitWordsFrom_append plain, List.append_nil, splitWordsFrom_elementsSource,
      map_flush_reverse some]
  next =>
    have reversed : name.reverse ++ ['@'] = ('@' :: name).reverse := by simp
    rw [same, splitWords, List.cons_append, splitWordsFrom, if_neg (by decide), if_pos rfl,
      map_flush_nil, splitWordsFrom_append plain, reversed, splitWordsFrom_elementsSource,
      map_flush_reverse (List.cons_ne_nil _ _)]
  next => rw [same]; rfl
  next => rw [same]; rfl
  next =>
    simp only [Element.source, Text.Quoted.encode, splitWords, List.cons_append, List.append_assoc]
    rw [splitWordsFrom, if_pos rfl, map_flush_nil, splitWordsFrom_encoded, List.nil_append,
      splitWordsFrom, if_neg (by decide), if_pos rfl]
    simp

theorem splitWords_elementsSource {elements : List Element}
    (writable : ∀ element ∈ elements, element.isWritable = true) :
    splitWords (elementsSource elements) = .ok (elements.map Element.source) := by
  induction elements with
  | nil => rfl
  | cons element rest ih =>
    obtain ⟨first, others⟩ := List.forall_mem_cons.1 writable
    have spaced : elementsSource (element :: rest) =
        ' ' :: (element.source ++ elementsSource rest) := rfl
    rw [spaced, splitWords, splitWordsFrom_space, map_flush_nil, splitWords_source_append first,
      ih others]
    rfl

theorem readElements_elementsSource {elements : List Element}
    (writable : ∀ element ∈ elements, element.isWritable = true) :
    readElements (elementsSource elements) = .ok elements := by
  rw [readElements, splitWords_elementsSource writable]
  refine Fallible.mapM_eq_ok_iff.2 ?_
  rw [List.forall₂_map_left_iff, List.forall₂_same]
  exact fun element member => Element.ofWord_source (writable element member)

theorem isWritable_of_readElements {body : List Char} {elements : List Element}
    (read : readElements body = .ok elements) :
    ∀ element ∈ elements, element.isWritable = true := by
  obtain ⟨words, -, spelled⟩ := Fallible.bind_eq_ok_iff.1 read
  exact Fallible.forall_mem_of_mapM spelled fun _ _ _ ofWord => Element.isWritable_of_ofWord ofWord

end Tag

end Stencil
