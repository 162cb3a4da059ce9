import Stencil.Proofs.Text.Name

set_option autoImplicit false

namespace Stencil.Text

def IsWord (text : List Char) : Prop :=
  text ≠ [] ∧ ∀ c ∈ text, isBlank c = false

theorem isWord_of_isIdentifier {name : List Char} (identifier : isIdentifier name = true) :
    IsWord name := by
  obtain ⟨c, rest, spelled, -⟩ := isIdentifier_iff.1 identifier
  refine ⟨by simp [spelled], fun d member => ?_⟩
  exact isBlank_eq_false_of_isNameCharacter (isNameCharacter_of_mem identifier d member)

def spaced (words : List (List Char)) : List Char :=
  words.flatMap (' ' :: ·)

theorem spaced_cons (word : List Char) (rest : List (List Char)) :
    spaced (word :: rest) = ' ' :: (word ++ spaced rest) := rfl

theorem isBlank_space : isBlank ' ' = true := by decide

theorem wordsFrom_append {word : List Char} (unblank : ∀ c ∈ word, isBlank c = false)
    (pending rest : List Char) :
    wordsFrom pending (word ++ rest) = wordsFrom (word.reverse ++ pending) rest := by
  induction word generalizing pending with
  | nil => rfl
  | cons c later ih =>
    have inside : ∀ d ∈ later, isBlank d = false := fun d member => unblank d (by simp [member])
    rw [List.cons_append, wordsFrom, unblank c List.mem_cons_self, if_neg Bool.false_ne_true,
      ih inside]
    simp

-- A pending word ends at the space in front of the next word, or with the text.
theorem wordsFrom_spaced {pending : List Char} (some : pending ≠ []) (words : List (List Char)) :
    wordsFrom pending (spaced words) = pending.reverse :: wordsFrom [] (spaced words) := by
  have nonempty : pending.isEmpty = false := by simpa using some
  cases words with
  | nil => simp [spaced, wordsFrom, nonempty]
  | cons word rest => simp [spaced_cons, wordsFrom, isBlank_space, nonempty]

theorem words_spaced {list : List (List Char)} (areWords : ∀ word ∈ list, IsWord word) :
    words (spaced list) = list := by
  induction list with
  | nil => rfl
  | cons word rest ih =>
    obtain ⟨some, unblank⟩ := areWords word List.mem_cons_self
    have later : wordsFrom [] (spaced rest) = rest :=
      ih fun other member => areWords other (List.mem_cons_of_mem _ member)
    rw [words, spaced_cons, wordsFrom, isBlank_space, if_pos rfl, List.isEmpty_nil, if_pos rfl,
      wordsFrom_append unblank, List.append_nil,
      wordsFrom_spaced (List.reverse_ne_nil_iff.2 some), List.reverse_reverse, later]

theorem isWord_of_mem_wordsFrom {pending text word : List Char}
    (unblank : ∀ c ∈ pending, isBlank c = false) (member : word ∈ wordsFrom pending text) :
    IsWord word := by
  have finished (some : ¬ pending.isEmpty = true) : IsWord pending.reverse :=
    ⟨by simpa using some, fun c inside => unblank c (List.mem_reverse.1 inside)⟩
  induction text generalizing pending with
  | nil =>
    rw [wordsFrom] at member
    split at member
    next => cases member
    next some =>
      rw [List.mem_singleton.1 member]
      exact finished some
  | cons c rest ih =>
    rw [wordsFrom] at member
    split at member
    next =>
      split at member
      next => exact ih (by simp) member (by simp)
      next some =>
        rcases List.mem_cons.1 member with rfl | member
        next => exact finished some
        next => exact ih (by simp) member (by simp)
    next plain =>
      have longer : ∀ d ∈ c :: pending, isBlank d = false :=
        List.forall_mem_cons.2 ⟨Bool.eq_false_iff.2 plain, unblank⟩
      exact ih longer member fun _ =>
        ⟨by simp, fun d inside => longer d (List.mem_reverse.1 inside)⟩

theorem isWord_of_mem_words {text word : List Char} (member : word ∈ words text) : IsWord word :=
  isWord_of_mem_wordsFrom (by simp) member

def EndsUnblank (text : List Char) : Prop :=
  ∃ init last, text = init ++ [last] ∧ isBlank last = false

theorem EndsUnblank.append {text : List Char} (ends : EndsUnblank text) (before : List Char) :
    EndsUnblank (before ++ text) := by
  obtain ⟨init, last, rfl, plain⟩ := ends
  exact ⟨before ++ init, last, by simp, plain⟩

theorem EndsUnblank.append_spaced {text : List Char} (ends : EndsUnblank text)
    {list : List (List Char)} (allEnd : ∀ word ∈ list, EndsUnblank word) :
    EndsUnblank (text ++ spaced list) := by
  induction list generalizing text with
  | nil => simpa [spaced] using ends
  | cons word rest ih =>
    have first : EndsUnblank (text ++ ' ' :: word) :=
      (EndsUnblank.append (allEnd word List.mem_cons_self) [' ']).append text
    have all := ih first fun other member => allEnd other (List.mem_cons_of_mem _ member)
    simpa [spaced_cons, List.append_assoc] using all

theorem IsWord.endsUnblank {word : List Char} (isWord : IsWord word) : EndsUnblank word :=
  ⟨word.dropLast, word.getLast isWord.1, (List.dropLast_concat_getLast isWord.1).symm,
    isWord.2 _ (List.getLast_mem isWord.1)⟩

theorem trimRight_append_space {text : List Char} (ends : EndsUnblank text) :
    trimRight (text ++ [' ']) = text := by
  obtain ⟨init, last, rfl, plain⟩ := ends
  simp [trimRight, isBlank_space, plain]

theorem trimLeft_cons {c : Char} (plain : isBlank c = false) (rest : List Char) :
    trimLeft (c :: rest) = c :: rest := by
  simp [trimLeft, plain]

theorem trim_space (rest : List Char) : trim (' ' :: rest) = trim rest := by
  simp [trim, trimLeft, isBlank_space]

theorem trim_append_space {c : Char} {rest : List Char} (starts : isBlank c = false)
    (ends : EndsUnblank (c :: rest)) : trim (c :: rest ++ [' ']) = c :: rest := by
  rw [trim, List.cons_append, trimLeft_cons starts, ← List.cons_append, trimRight_append_space ends]

end Stencil.Text
