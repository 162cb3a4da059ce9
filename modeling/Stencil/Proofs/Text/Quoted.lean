import Stencil.Fallible
import Stencil.Text.Blank
import Stencil.Text.Quoted

set_option autoImplicit false

namespace Stencil.Text.Quoted

theorem encodeCharacter_cases (c : Char) :
    (encodeCharacter c = [c] ∧ c ≠ '"' ∧ c ≠ '\\' ∧ c ≠ '\n' ∧ c ≠ '\r' ∧ c ≠ '\t') ∨
      ∃ mark, encodeCharacter c = ['\\', mark] ∧ unescape? mark = some c := by
  unfold encodeCharacter
  split
  next => exact .inr ⟨'"', rfl, rfl⟩
  next => exact .inr ⟨'\\', rfl, rfl⟩
  next => exact .inr ⟨'n', rfl, rfl⟩
  next => exact .inr ⟨'r', rfl, rfl⟩
  next => exact .inr ⟨'t', rfl, rfl⟩
  next notQuote notBackslash notEnd notReturn notTab =>
    exact .inl ⟨rfl, notQuote, notBackslash, notEnd, notReturn, notTab⟩

theorem not_isBlank_of_unescape? {mark c : Char} (escape : unescape? mark = some c) :
    isBlank mark = false ∧ (!isBlank c || c == '\n' || c == '\r' || c == '\t') = true := by
  unfold unescape? at escape
  split at escape <;> cases escape <;> decide

theorem ne_backslash {c : Char} {rest : List Char} (single : c = '\\' → rest = [] → False)
    (pair : ∀ d later, c = '\\' → rest = d :: later → False) : c ≠ '\\' := by
  rintro rfl
  cases rest with
  | nil => exact single rfl rfl
  | cons d later => exact pair d later rfl rfl

theorem resolve_encodeCharacter_append (c : Char) (rest : List Char) :
    resolve (encodeCharacter c ++ rest) = (resolve rest).map (c :: ·) := by
  rcases encodeCharacter_cases c with ⟨same, notQuote, notBackslash, -⟩ | ⟨mark, same, escape⟩
  next =>
    rw [same, List.singleton_append, resolve.eq_5]
    next => exact fun same _ => notBackslash same
    next => exact fun _ _ same => absurd same notBackslash
    next => exact notQuote
  next =>
    rw [same, List.cons_append, List.singleton_append, resolve, escape]

theorem resolve_encoded (text : List Char) : resolve (text.flatMap encodeCharacter) = .ok text := by
  induction text with
  | nil => rfl
  | cons c rest ih => rw [List.flatMap_cons, resolve_encodeCharacter_append, ih]; rfl

theorem decode_encode (text : List Char) : decode (encode text) = .ok text := by
  simp [encode, decode, resolve_encoded]

def isUnbroken (text : List Char) : Bool :=
  text.all fun c => !isBlank c || c == '\n' || c == '\r' || c == '\t'

theorem not_isBlank_of_mem_encodeCharacter {c d : Char}
    (escaped : (!isBlank c || c == '\n' || c == '\r' || c == '\t') = true)
    (member : d ∈ encodeCharacter c) : isBlank d = false := by
  have backslash : isBlank '\\' = false := by decide
  -- The blanks that are allowed are those with an escape, and no escape is written with a blank.
  rcases encodeCharacter_cases c with ⟨same, -, -, notEnd, notReturn, notTab⟩ | ⟨mark, same, escape⟩
  next => simp_all
  next =>
    have plain := (not_isBlank_of_unescape? escape).1
    simp_all only [List.mem_cons, List.not_mem_nil, or_false]
    rcases member with rfl | rfl
    next => exact backslash
    next => exact plain

theorem not_isBlank_of_mem_encode {text : List Char} (unbroken : isUnbroken text = true) :
    ∀ c ∈ encode text, isBlank c = false := by
  have quote : isBlank '"' = false := by decide
  have inside : ∀ c ∈ text.flatMap encodeCharacter, isBlank c = false := by
    intro c member
    obtain ⟨d, inText, member⟩ := List.mem_flatMap.1 member
    exact not_isBlank_of_mem_encodeCharacter (List.all_eq_true.1 unbroken d inText) member
  simp only [encode, List.cons_append, List.forall_mem_cons, List.forall_mem_append]
  exact ⟨quote, inside, by simp [quote]⟩

theorem isUnbroken_of_resolve {word text : List Char}
    (unblank : ∀ c ∈ word, isBlank c = false) (read : resolve word = .ok text) :
    isUnbroken text = true := by
  fun_induction resolve word generalizing text with
  | case1 => cases read; rfl
  | case2 => cases read
  | case3 c rest plain escape ih =>
    obtain ⟨later, tail, rfl⟩ := Fallible.map_eq_ok_iff.1 read
    rw [isUnbroken, List.all_cons, (not_isBlank_of_unescape? escape).2]
    exact ih (fun d member => unblank d (by simp [member])) tail
  | case4 => cases read
  | case5 => cases read
  | case6 c rest _ _ _ ih =>
    obtain ⟨later, tail, rfl⟩ := Fallible.map_eq_ok_iff.1 read
    rw [isUnbroken, List.all_cons, unblank c (by simp)]
    exact ih (fun d member => unblank d (by simp [member])) tail

theorem isUnbroken_of_decode {word text : List Char} (unblank : ∀ c ∈ word, isBlank c = false)
    (read : decode word = .ok text) : isUnbroken text = true := by
  unfold decode at read
  split at read
  next rest =>
    split at read
    next =>
      exact isUnbroken_of_resolve
        (fun c member => unblank c (List.mem_cons_of_mem _ (List.dropLast_subset rest member))) read
    next => cases read
  next => cases read

def escapes : List (Char × Char) :=
  [('"', '"'), ('\\', '\\'), ('n', '\n'), ('r', '\r'), ('t', '\t')]

/-- Whether a text, between quotes, stands for another: quotes and backslashes only occur in
escapes, and all other characters stand for themselves. -/
inductive Resolves : List Char → List Char → Prop
  | nil : Resolves [] []
  | plain {c : Char} {inner text : List Char} (notQuote : c ≠ '"') (notBackslash : c ≠ '\\')
      (later : Resolves inner text) : Resolves (c :: inner) (c :: text)
  | escape {mark c : Char} {inner text : List Char} (escape : (mark, c) ∈ escapes)
      (later : Resolves inner text) : Resolves ('\\' :: mark :: inner) (c :: text)

theorem unescape?_eq_some_iff {mark c : Char} :
    unescape? mark = some c ↔ (mark, c) ∈ escapes := by
  constructor
  next =>
    intro escape
    unfold unescape? at escape
    split at escape <;> cases escape <;> decide
  next =>
    intro escape
    simp only [escapes, List.mem_cons, List.not_mem_nil, or_false, Prod.mk.injEq] at escape
    rcases escape with ⟨rfl, rfl⟩ | ⟨rfl, rfl⟩ | ⟨rfl, rfl⟩ | ⟨rfl, rfl⟩ | ⟨rfl, rfl⟩ <;> rfl

theorem resolve_eq_ok_iff {inner text : List Char} :
    resolve inner = .ok text ↔ Resolves inner text := by
  constructor
  next =>
    intro read
    fun_induction resolve inner generalizing text with
    | case1 =>
      cases read
      exact .nil
    | case3 c rest plain escape ih =>
      obtain ⟨later, tail, rfl⟩ := Fallible.map_eq_ok_iff.1 read
      exact .escape (unescape?_eq_some_iff.1 escape) (ih tail)
    | case6 c rest single pair notQuote ih =>
      obtain ⟨later, tail, rfl⟩ := Fallible.map_eq_ok_iff.1 read
      exact .plain notQuote (ne_backslash single pair) (ih tail)
    | case2 | case4 | case5 => cases read
  next =>
    intro resolves
    induction resolves with
    | nil => rfl
    | plain notQuote notBackslash _ ih =>
      rw [resolve.eq_5, ih]
      next => rfl
      next => exact fun same _ => notBackslash same
      next => exact fun _ _ same => absurd same notBackslash
      next => exact notQuote
    | escape escape _ ih =>
      rw [resolve, unescape?_eq_some_iff.2 escape]
      dsimp only
      rw [ih]
      rfl

theorem decode_eq_ok_iff {word text : List Char} :
    decode word = .ok text ↔ ∃ inner, word = '"' :: (inner ++ ['"']) ∧ Resolves inner text := by
  constructor
  next =>
    intro read
    unfold decode at read
    split at read
    next rest =>
      split at read
      next closed =>
        obtain ⟨inner, rfl⟩ := List.getLast?_eq_some_iff.1 closed
        rw [List.dropLast_concat] at read
        exact ⟨inner, rfl, resolve_eq_ok_iff.1 read⟩
      next => cases read
    next => cases read
  next =>
    rintro ⟨inner, rfl, resolves⟩
    simp [decode, resolve_eq_ok_iff.2 resolves]

end Stencil.Text.Quoted
