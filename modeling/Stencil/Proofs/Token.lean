import Stencil.Document.Writer

set_option autoImplicit false

namespace Stencil

theorem escapeCharacter_cases (c : Char) :
    (escapeCharacter c = ['\\', c] ∧ (c = '\\' ∨ c = '{')) ∨
      (escapeCharacter c = [c] ∧ c ≠ '\\' ∧ c ≠ '{') := by
  unfold escapeCharacter
  split
  next => exact .inl ⟨rfl, .inl rfl⟩
  next => exact .inl ⟨rfl, .inr rfl⟩
  next notBackslash notBrace => exact .inr ⟨rfl, notBackslash, notBrace⟩

theorem escapeText_cons (c : Char) (rest : List Char) :
    escapeText (c :: rest) = escapeCharacter c ++ escapeText rest := rfl

def Cursor.stopsText (rest : List Char) : Bool :=
  rest.isEmpty || tagOpening.isPrefixOf rest

namespace Cursor

theorem stopsText_cons_of_ne {c : Char} (notBrace : c ≠ '{') (rest : List Char) :
    stopsText (c :: rest) = false := by
  simp [stopsText, tagOpening, List.isPrefixOf, Ne.symm notBrace]

theorem stopsText_escapeText_append {text : List Char} (some : text ≠ []) (rest : List Char) :
    stopsText (escapeText text ++ rest) = false := by
  cases text with
  | nil => exact absurd rfl some
  | cons c later =>
    rw [escapeText_cons]
    rcases escapeCharacter_cases c with ⟨same, -⟩ | ⟨same, -, notBrace⟩
    next => rw [same]; exact stopsText_cons_of_ne (by decide) _
    next => rw [same]; exact stopsText_cons_of_ne notBrace _

theorem splitText_cons {c : Char} {rest : List Char} (notBackslash : c ≠ '\\')
    (goesOn : stopsText (c :: rest) = false) (fileId offset : Nat) :
    splitText fileId offset (c :: rest) =
      (splitText fileId (offset + c.utf8Size) rest).map
        fun (text, after) => (c :: text, after) := by
  have plain : tagOpening.isPrefixOf (c :: rest) = false := by simpa [stopsText] using goesOn
  rw [splitText.eq_def]
  split
  next same => cases same
  next same => cases same; exact absurd rfl notBackslash
  next same => cases same; exact absurd rfl notBackslash
  next same =>
    cases same
    rw [plain, if_neg Bool.false_ne_true]

theorem splitText_escape {c : Char} (escapes : c = '\\' ∨ c = '{') (fileId offset : Nat)
    (rest : List Char) :
    splitText fileId offset ('\\' :: c :: rest) =
      (splitText fileId (offset + 2) rest).map fun (text, after) => (c :: text, after) := by
  rw [splitText, if_pos escapes]

theorem splitText_of_stopsText {rest : List Char} (stops : stopsText rest = true)
    (fileId offset : Nat) : splitText fileId offset rest = .ok ([], ⟨rest, offset⟩) := by
  cases rest with
  | nil => rw [splitText]
  | cons c later =>
    have opens : tagOpening.isPrefixOf (c :: later) = true := by simpa [stopsText] using stops
    have brace : c = '{' := by
      simp [tagOpening] at opens
      exact opens.1.symm
    subst brace
    rw [splitText.eq_def]
    simp [opens]

theorem splitText_escapeText_append (text : List Char) (fileId offset : Nat) (rest : List Char) :
    ∃ offset', splitText fileId offset (escapeText text ++ rest) =
      (splitText fileId offset' rest).map fun (more, after) => (text ++ more, after) := by
  induction text generalizing offset with
  | nil =>
    refine ⟨offset, ?_⟩
    simp only [escapeText, List.flatMap_nil, List.nil_append]
    cases splitText fileId offset rest <;> rfl
  | cons c later ih =>
    rw [escapeText_cons, List.append_assoc]
    -- The two ways to write a character differ in length, and so does the offset behind it.
    rcases escapeCharacter_cases c with ⟨same, escapes⟩ | ⟨same, notBackslash, notBrace⟩
    next =>
      obtain ⟨offset', tail⟩ := ih (offset + 2)
      refine ⟨offset', ?_⟩
      rw [same, List.cons_append, List.singleton_append, splitText_escape escapes, tail]
      cases splitText fileId offset' rest <;> rfl
    next =>
      obtain ⟨offset', tail⟩ := ih (offset + c.utf8Size)
      refine ⟨offset', ?_⟩
      rw [same, List.singleton_append,
        splitText_cons notBackslash (stopsText_cons_of_ne notBrace _), tail]
      cases splitText fileId offset' rest <;> rfl

theorem stopsText_of_splitText {fileId offset : Nat} {rest text : List Char} {after : Cursor}
    (read : splitText fileId offset rest = .ok (text, after)) : stopsText after.rest = true := by
  fun_induction splitText fileId offset rest generalizing text with
  | case1 => cases read; rfl
  | case2 | case4 => cases read
  | case5 offset c rest _ _ opens =>
    cases read
    simp [stopsText, opens]
  | case3 offset c rest plain ih | case6 offset c rest _ _ plain ih =>
    obtain ⟨⟨tail, later⟩, split, same⟩ := Fallible.map_eq_ok_iff.1 read
    cases same
    exact ih split

theorem ne_nil_of_splitText {fileId offset : Nat} {rest text : List Char} {after : Cursor}
    (goesOn : stopsText rest = false) (read : splitText fileId offset rest = .ok (text, after)) :
    text ≠ [] := by
  simp only [stopsText, Bool.or_eq_false_iff] at goesOn
  unfold splitText at read
  split at read
  next => simp at goesOn
  next => cases read
  next =>
    split at read
    next =>
      obtain ⟨⟨tail, later⟩, -, same⟩ := Fallible.map_eq_ok_iff.1 read
      cases same
      simp
    next => cases read
  next =>
    rw [goesOn.2, if_neg Bool.false_ne_true] at read
    obtain ⟨⟨tail, later⟩, -, same⟩ := Fallible.map_eq_ok_iff.1 read
    cases same
    simp

end Cursor

end Stencil
