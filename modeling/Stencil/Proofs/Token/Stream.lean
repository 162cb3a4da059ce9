import Stencil.Proofs.Token.Cover

set_option autoImplicit false

namespace Stencil

open Fallible

def Span.shift (count : Nat) (span : Span) : Span :=
  ⟨count + span.start, count + span.stop⟩

def Token.shift (count : Nat) (token : Token) : Token :=
  { token with span := token.span.shift count }

def Cursor.shift (count : Nat) (cursor : Cursor) : Cursor :=
  { cursor with offset := count + cursor.offset }

namespace ParseError

def shift (count : Nat) (e : ParseError) : ParseError :=
  { e with
    span := e.span.shift count
    cause :=
      match e.cause with
      | .unterminatedLoop loops documentEnd => .unterminatedLoop loops (count + documentEnd)
      | other => other }

variable {α β : Type}

def carry (count : Nat) (change : α → β) : Except ParseError α → Except ParseError β
  | .ok value => .ok (change value)
  | .error fault => .error (fault.shift count)

end ParseError

open ParseError (carry)

section

variable {fileId : Nat} {cursor after : Cursor} {token : Token} {fault : ParseError}

theorem tokensFrom_of_rest_eq_nil (atEnd : cursor.rest = []) :
    tokensFrom fileId cursor = ([], none) := by
  rw [tokensFrom, dif_pos atEnd]

theorem tokensFrom_of_next (more : cursor.rest ≠ [])
    (read : cursor.next fileId = (.ok token, after)) :
    tokensFrom fileId cursor =
      (token :: (tokensFrom fileId after).1, (tokensFrom fileId after).2) := by
  rw [tokensFrom, dif_neg more]
  split <;> simp_all

theorem tokensFrom_of_fault (more : cursor.rest ≠ [])
    (failed : cursor.next fileId = (.error fault, after)) :
    tokensFrom fileId cursor = ([], some fault) := by
  rw [tokensFrom, dif_neg more]
  split <;> simp_all

@[elab_as_elim]
theorem tokensFrom_induction {motive : Cursor → Prop} (fileId : Nat)
    (atEnd : ∀ cursor, cursor.rest = [] → motive cursor)
    (fault : ∀ cursor fault after, cursor.rest ≠ [] →
      cursor.next fileId = (.error fault, after) → motive cursor)
    (next : ∀ cursor token after, cursor.rest ≠ [] → cursor.next fileId = (.ok token, after) →
      motive after → motive cursor) (cursor : Cursor) : motive cursor := by
  induction cursor using tokensFrom.induct fileId with
  | case1 cursor empty => exact atEnd cursor empty
  | case2 cursor more failure after failed => exact fault cursor failure after more failed
  | case3 cursor more token after read _ _ _ ih => exact next cursor token after more read ih

theorem exists_next_of_mem_tokensFrom {source : List Char} (inside : cursor.IsIn source)
    (member : token ∈ (tokensFrom fileId cursor).1) :
    ∃ place after : Cursor, place.IsIn source ∧ place.rest ≠ [] ∧
      place.next fileId = (.ok token, after) := by
  induction cursor using tokensFrom_induction fileId with
  | atEnd cursor atEnd => simp [tokensFrom_of_rest_eq_nil atEnd] at member
  | fault cursor fault after more failed => simp [tokensFrom_of_fault more failed] at member
  | next cursor first after more read ih =>
    rw [tokensFrom_of_next more read] at member
    rcases List.mem_cons.1 member with rfl | member
    next => exact ⟨cursor, after, inside, more, read⟩
    next =>
      have moved : cursor.move fileId = after := by rw [Cursor.move, read]
      exact ih (moved ▸ inside.move fileId) member

theorem exists_next_of_fault {source : List Char} (inside : cursor.IsIn source)
    (failed : (tokensFrom fileId cursor).2 = some fault) :
    ∃ place : Cursor, place.IsIn source ∧ (place.next fileId).1 = .error fault := by
  induction cursor using tokensFrom_induction fileId with
  | atEnd cursor atEnd => simp [tokensFrom_of_rest_eq_nil atEnd] at failed
  | fault cursor other after more read =>
    rw [tokensFrom_of_fault more read] at failed
    cases failed
    exact ⟨cursor, inside, congrArg Prod.fst read⟩
  | next cursor first after more read ih =>
    rw [tokensFrom_of_next more read] at failed
    have moved : cursor.move fileId = after := by rw [Cursor.move, read]
    exact ih (moved ▸ inside.move fileId) failed

end

namespace Cursor

@[elab_as_elim]
theorem splitText_induction {motive : Nat → List Char → Prop}
    (stops : ∀ offset rest, stopsText rest = true → motive offset rest)
    (dangling : ∀ offset, motive offset ['\\'])
    (malformed : ∀ offset c rest, ¬ (c = '\\' ∨ c = '{') → motive offset ('\\' :: c :: rest))
    (escape : ∀ offset c rest, c = '\\' ∨ c = '{' → motive (offset + 2) rest →
      motive offset ('\\' :: c :: rest))
    (plain : ∀ offset c rest, c ≠ '\\' → stopsText (c :: rest) = false →
      motive (offset + c.utf8Size) rest → motive offset (c :: rest))
    (offset : Nat) (rest : List Char) : motive offset rest := by
  induction offset, rest using splitText.induct with
  | case1 offset => exact stops offset [] rfl
  | case2 offset => exact dangling offset
  | case3 offset c rest known ih => exact escape offset c rest known ih
  | case4 offset c rest unknown => exact malformed offset c rest unknown
  | case5 offset c rest _ _ opens => exact stops offset (c :: rest) (by simp [stopsText, opens])
  | case6 offset c rest single pair goesOn ih =>
    exact plain offset c rest (Text.Quoted.ne_backslash single pair)
      (by simp [stopsText, Bool.eq_false_iff.2 goesOn]) ih

theorem stopsText_cases (rest : List Char) :
    rest = [] ∨ tagOpening.isPrefixOf rest = true ∨ stopsText rest = false := by
  cases rest with
  | nil => exact .inl rfl
  | cons c rest =>
    rw [stopsText, List.isEmpty_cons, Bool.false_or]
    exact .inr (Bool.eq_false_or_eq_true _)

theorem next_of_opens {cursor : Cursor} (opens : tagOpening.isPrefixOf cursor.rest = true)
    {fileId : Nat} :
    cursor.next fileId =
      match TagScan.split? .outside (cursor.rest.drop 2) with
      | none => (.error ⟨.unterminatedTag, ⟨cursor.offset, cursor.offset + 2⟩, fileId, []⟩, cursor)
      | some (inner, after) =>
        let stop := cursor.offset + 2 + byteLength inner
        (.ok ⟨.tag, tagOpening ++ inner, ⟨cursor.offset, stop⟩⟩, ⟨after, stop⟩) := by
  have notEnd : ¬ cursor.rest.isEmpty = true := by
    intro empty
    rw [List.isEmpty_iff.1 empty] at opens
    cases opens
  rw [next_eq, if_neg notEnd, if_pos opens]
  exact readTag_eq fileId cursor

theorem next_of_goesOn {cursor : Cursor} (goesOn : stopsText cursor.rest = false) {fileId : Nat} :
    cursor.next fileId =
      match splitText fileId cursor.offset cursor.rest with
      | .error fault => (.error fault, cursor)
      | .ok (text, after) => (.ok ⟨.text, text, ⟨cursor.offset, after.offset⟩⟩, after) := by
  simp only [stopsText, Bool.or_eq_false_iff] at goesOn
  rw [next_eq, goesOn.1, goesOn.2, if_neg Bool.false_ne_true, if_neg Bool.false_ne_true]
  exact readText_eq fileId cursor

theorem splitText_shift (fileId count offset : Nat) (source : List Char) :
    splitText fileId (count + offset) source =
      carry count (fun (text, after) => (text, after.shift count))
        (splitText fileId offset source) := by
  induction offset, source using splitText_induction with
  | stops offset rest stops =>
    rw [splitText_of_stopsText stops, splitText_of_stopsText stops]
    rfl
  | dangling offset => rfl
  | malformed offset c rest unknown =>
    rw [splitText, splitText, if_neg unknown, if_neg unknown]
    simp only [carry, ParseError.shift, Span.shift, Nat.add_assoc]
  | escape offset c rest known ih =>
    rw [splitText_escape known, splitText_escape known, Nat.add_assoc, ih]
    cases splitText fileId (offset + 2) rest <;> rfl
  | plain offset c rest notBackslash goesOn ih =>
    rw [splitText_cons notBackslash goesOn, splitText_cons notBackslash goesOn, Nat.add_assoc, ih]
    cases splitText fileId (offset + c.utf8Size) rest <;> rfl

theorem next_shift (fileId count : Nat) (cursor : Cursor) :
    (cursor.shift count).next fileId =
      (carry count (Token.shift count) (cursor.next fileId).1,
        (cursor.next fileId).2.shift count) := by
  rcases stopsText_cases cursor.rest with atEnd | opens | goesOn
  next =>
    have atEndThere : (cursor.shift count).rest = [] := atEnd
    rw [next_of_rest_eq_nil atEnd, next_of_rest_eq_nil atEndThere]
    rfl
  next =>
    have opensThere : tagOpening.isPrefixOf (cursor.shift count).rest = true := opens
    rw [next_of_opens opens, next_of_opens opensThere, shift]
    cases TagScan.split? .outside (cursor.rest.drop 2) <;>
      simp only [carry, ParseError.shift, Token.shift, Span.shift, shift, Nat.add_assoc]
  next =>
    have goesOnThere : stopsText (cursor.shift count).rest = false := goesOn
    rw [next_of_goesOn goesOn, next_of_goesOn goesOnThere, shift, splitText_shift]
    cases splitText fileId cursor.offset cursor.rest <;> rfl

end Cursor

theorem tokensFrom_shift (fileId count : Nat) (cursor : Cursor) :
    tokensFrom fileId (cursor.shift count) =
      ((tokensFrom fileId cursor).1.map (Token.shift count),
        (tokensFrom fileId cursor).2.map (ParseError.shift count)) := by
  have moved (cursor : Cursor) := cursor.next_shift fileId count
  induction cursor using tokensFrom_induction fileId with
  | atEnd cursor atEnd =>
    rw [tokensFrom_of_rest_eq_nil atEnd]
    exact tokensFrom_of_rest_eq_nil atEnd
  | fault cursor fault after more failed =>
    have failedThere : (cursor.shift count).next fileId =
        (.error (fault.shift count), after.shift count) := by rw [moved, failed]; rfl
    have moreThere : (cursor.shift count).rest ≠ [] := more
    rw [tokensFrom_of_fault more failed, tokensFrom_of_fault moreThere failedThere]
    rfl
  | next cursor token after more read ih =>
    have readThere : (cursor.shift count).next fileId =
        (.ok (token.shift count), after.shift count) := by rw [moved, read]; rfl
    have moreThere : (cursor.shift count).rest ≠ [] := more
    rw [tokensFrom_of_next more read, tokensFrom_of_next moreThere readThere, ih, List.map_cons]

theorem TagScan.split?_append_more {scan : TagScan} {source inner after : List Char}
    (found : split? scan source = some (inner, after)) (more : List Char) :
    split? scan (source ++ more) = some (inner, after ++ more) := by
  induction source generalizing scan inner with
  | nil => simp [split?] at found
  | cons c rest ih =>
    rw [List.cons_append]
    simp only [split?] at *
    split at found
    next ends =>
      cases found
      rw [if_pos ends]
    next goesOn =>
      obtain ⟨⟨tail, later⟩, split, same⟩ := Option.map_eq_some_iff.1 found
      cases same
      rw [if_neg goesOn, ih split]
      rfl

namespace Cursor

variable {fileId offset : Nat} {rest more text : List Char} {cursor after : Cursor} {token : Token}

theorem isPrefixOf_append (opens : tagOpening.isPrefixOf rest = true) (more : List Char) :
    tagOpening.isPrefixOf (rest ++ more) = true :=
  List.isPrefixOf_iff_prefix.2
    ((List.isPrefixOf_iff_prefix.1 opens).trans (List.prefix_append rest more))

-- A brace at the very end would become a tag if what comes behind it began with a dollar.
theorem stopsText_append_eq_false (goesOn : stopsText rest = false)
    (read : splitText fileId offset rest = .ok (text, after))
    (seam : stopsText (after.rest ++ more) = true) : stopsText (rest ++ more) = false := by
  rcases rest with - | ⟨c, - | ⟨d, later⟩⟩
  next => cases goesOn
  next =>
    have plain : ¬ tagOpening.isPrefixOf [c] = true := Bool.eq_false_iff.1 goesOn
    have shorter := length_splitText_lt read (List.cons_ne_nil c []) plain
    have atEnd : after.rest = [] := List.length_eq_zero_iff.1 (Nat.lt_one_iff.1 shorter)
    rw [atEnd, List.nil_append] at seam
    cases more with
    | nil => exact goesOn
    | cons d later =>
      have brace : '{' = d := by
        simp only [stopsText, tagOpening, List.isPrefixOf, List.isEmpty_cons, Bool.false_or,
          Bool.and_eq_true, beq_iff_eq] at seam
        exact seam.1
      simp [stopsText, tagOpening, List.isPrefixOf, ← brace]
  next => simpa [stopsText, tagOpening, List.isPrefixOf] using goesOn

theorem splitText_append (read : splitText fileId offset rest = .ok (text, after))
    (seam : stopsText (after.rest ++ more) = true) :
    splitText fileId offset (rest ++ more) = .ok (text, ⟨after.rest ++ more, after.offset⟩) := by
  induction offset, rest using splitText_induction generalizing text with
  | stops offset rest stops =>
    rw [splitText_of_stopsText stops] at read
    cases read
    exact splitText_of_stopsText seam fileId offset
  | dangling offset => cases read
  | malformed offset c rest unknown =>
    rw [splitText, if_neg unknown] at read
    cases read
  | escape offset c rest known ih =>
    rw [splitText_escape known] at read
    obtain ⟨⟨tail, later⟩, split, same⟩ := map_eq_ok_iff.1 read
    cases same
    rw [List.cons_append, List.cons_append, splitText_escape known, ih split]
    rfl
  | plain offset c rest notBackslash goesOn ih =>
    have longer := stopsText_append_eq_false goesOn read seam
    rw [splitText_cons notBackslash goesOn] at read
    obtain ⟨⟨tail, later⟩, split, same⟩ := map_eq_ok_iff.1 read
    cases same
    rw [List.cons_append] at longer
    rw [List.cons_append, splitText_cons notBackslash longer, ih split]
    rfl

theorem next_append (notEnd : cursor.rest ≠ []) (read : cursor.next fileId = (.ok token, after))
    (seam : token.kind = .tag ∨ stopsText (after.rest ++ more) = true) :
    next fileId ⟨cursor.rest ++ more, cursor.offset⟩ =
      (.ok token, ⟨after.rest ++ more, after.offset⟩) := by
  rcases stopsText_cases cursor.rest with atEnd | opens | goesOn
  next => exact absurd atEnd notEnd
  next =>
    have longer : tagOpening.isPrefixOf (cursor.rest ++ more) = true :=
      isPrefixOf_append opens more
    have inside : (cursor.rest ++ more).drop 2 = cursor.rest.drop 2 ++ more :=
      List.drop_append_of_le_length (List.isPrefixOf_iff_prefix.1 opens).length_le
    rw [next_of_opens opens] at read
    rw [next_of_opens longer, inside]
    cases found : TagScan.split? .outside (cursor.rest.drop 2) with
    | none =>
      rw [found] at read
      cases read
    | some piece =>
      rw [found] at read
      cases read
      rw [TagScan.split?_append_more found]
  next =>
    rw [next_of_goesOn goesOn] at read
    split at read
    next => cases read
    next text later split =>
      cases read
      have stops : stopsText (after.rest ++ more) = true := seam.resolve_left nofun
      rw [next_of_goesOn (stopsText_append_eq_false goesOn split stops),
        splitText_append split stops]

end Cursor

-- Whether what comes behind a source leaves the last of its tokens as it is.
def LeavesLast (tokens : List Token) (more : List Char) : Prop :=
  ∀ last ∈ tokens.getLast?, last.kind = .tag ∨ Cursor.stopsText more = true

theorem LeavesLast.tail {token : Token} {tokens : List Token} {more : List Char}
    (seam : LeavesLast (token :: tokens) more) : LeavesLast tokens more := by
  intro last member
  refine seam last ?_
  rw [List.getLast?_cons, Option.mem_def.1 member]
  rfl

theorem tokensFrom_append {fileId : Nat} {cursor : Cursor} {more : List Char}
    (complete : (tokensFrom fileId cursor).2 = none)
    (seam : LeavesLast (tokensFrom fileId cursor).1 more) :
    tokensFrom fileId ⟨cursor.rest ++ more, cursor.offset⟩ =
      let later := tokensFrom fileId ⟨more, cursor.offset + byteLength cursor.rest⟩
      ((tokensFrom fileId cursor).1 ++ later.1, later.2) := by
  induction cursor using tokensFrom_induction fileId with
  | atEnd cursor atEnd =>
    rw [tokensFrom_of_rest_eq_nil atEnd, atEnd]
    rfl
  | fault cursor fault after goesOn failed =>
    rw [tokensFrom_of_fault goesOn failed] at complete
    cases complete
  | next cursor token after goesOn read ih =>
    rw [tokensFrom_of_next goesOn read] at complete seam ⊢
    obtain ⟨piece, whole, place, -, -, eof, stops⟩ := Cursor.next_eq_ok read
    -- Behind the last token the seam decides, and behind every other text a tag begins.
    have seamHere : token.kind = .tag ∨ Cursor.stopsText (after.rest ++ more) = true := by
      by_cases atEnd : after.rest = []
      next =>
        rw [tokensFrom_of_rest_eq_nil atEnd] at seam
        rw [atEnd]
        exact seam token rfl
      next =>
        cases kind : token.kind with
        | tag => exact .inl rfl
        | eof => exact absurd (eof.1 kind) goesOn
        | text =>
          have opens : tagOpening.isPrefixOf after.rest = true := by
            simpa [Cursor.stopsText, atEnd] using (stops kind).2
          have longer := Cursor.isPrefixOf_append opens more
          exact .inr (by simp [Cursor.stopsText, longer])
    have longer : cursor.rest ++ more ≠ [] := by simp [goesOn]
    rw [tokensFrom_of_next longer (Cursor.next_append goesOn read seamHere), ih complete seam.tail,
      place, whole, byteLength_append, Nat.add_assoc]
    rfl

end Stencil
