import Stencil.Proofs.Document.Fault
import Stencil.Proofs.Document.Origin

set_option autoImplicit false

namespace Stencil

open ParseError (Cause)

/-- Whether a span is the place of a piece of a source, between what comes before and behind it. -/
structure Span.Marks (span : Span) (source before piece after : List Char) : Prop where
  whole : source = before ++ piece ++ after
  bytes : span = ⟨byteLength before, byteLength (before ++ piece)⟩

namespace Span.Marks

variable {span : Span} {before piece after : List Char}

theorem isValid_byteLength {source : String} {front back : List Char}
    (whole : source.toList = front ++ back) :
    String.Pos.Raw.IsValid source ⟨byteLength front⟩ := by
  refine String.Pos.Raw.isValid_iff_exists_append.2
    ⟨String.ofList front, String.ofList back, ?_, ?_⟩
  next => rw [← String.ofList_append, ← whole, String.ofList_toList]
  next => rw [byteLength_eq]; rfl

theorem isValid {source : String} (marks : Marks span source.toList before piece after) :
    String.Pos.Raw.IsValid source ⟨span.start⟩ ∧ String.Pos.Raw.IsValid source ⟨span.stop⟩ := by
  have front : source.toList = before ++ (piece ++ after) := by
    rw [marks.whole, List.append_assoc]
  rw [marks.bytes]
  exact ⟨isValid_byteLength front, isValid_byteLength marks.whole⟩

theorem start_lt_stop {source : List Char} (marks : Marks span source before piece after)
    (some : piece ≠ []) : span.start < span.stop := by
  have filled := byteLength_pos some
  rw [marks.bytes, byteLength_append]
  dsimp only
  omega

end Span.Marks

-- What is found where a token cannot be read: a piece of the source, and what comes behind it.
inductive ParseError.Cause.Tears : Cause → List Char → List Char → Prop
  | openTag {after : List Char} (unclosed : TagScan.split? .outside after = none) :
    Tears .unterminatedTag tagOpening after
  | escape {c : Char} {after : List Char} (unknown : ¬ (c = '\\' ∨ c = '{')) :
    Tears (.malformedEscape c) ['\\', c] after
  | backslash : Tears .danglingEscape ['\\'] []

theorem ParseError.Cause.Tears.ne_nil {cause : Cause} {piece after : List Char}
    (tears : cause.Tears piece after) : piece ≠ [] := by
  cases tears <;> simp [tagOpening]

namespace Cursor

variable {fileId offset : Nat} {source : List Char} {cursor : Cursor} {fault : ParseError}

theorem splitText_eq_error (failed : splitText fileId offset source = .error fault) :
    fault.fileId = fileId ∧ ∃ before piece after, source = before ++ piece ++ after ∧
      fault.span = ⟨offset + byteLength before, offset + byteLength (before ++ piece)⟩ ∧
      fault.cause.Tears piece after := by
  induction offset, source using splitText_induction with
  | stops offset rest stops =>
    rw [splitText_of_stopsText stops] at failed
    cases failed
  | dangling offset =>
    cases failed
    exact ⟨rfl, [], ['\\'], [], rfl, rfl, .backslash⟩
  | malformed offset c rest unknown =>
    rw [splitText, if_neg unknown] at failed
    cases failed
    refine ⟨rfl, [], ['\\', c], rest, rfl, ?_, .escape unknown⟩
    have narrow : '\\'.utf8Size = 1 := rfl
    simp only [List.nil_append, byteLength, narrow, Nat.add_zero, Nat.add_assoc]
  | escape offset c rest known ih =>
    rw [splitText_escape known] at failed
    obtain ⟨file, before, piece, after, rfl, span, tears⟩ :=
      ih (Fallible.map_eq_error_iff.1 failed)
    refine ⟨file, '\\' :: c :: before, piece, after, rfl, ?_, tears⟩
    have narrow : '\\'.utf8Size = 1 := rfl
    have narrowToo : c.utf8Size = 1 := by rcases known with rfl | rfl <;> rfl
    rw [span]
    simp only [List.cons_append, byteLength, narrow, narrowToo, Span.mk.injEq]
    omega
  | plain offset c rest notBackslash goesOn ih =>
    rw [splitText_cons notBackslash goesOn] at failed
    obtain ⟨file, before, piece, after, rfl, span, tears⟩ :=
      ih (Fallible.map_eq_error_iff.1 failed)
    refine ⟨file, c :: before, piece, after, rfl, ?_, tears⟩
    simp only [span, List.cons_append, byteLength, Nat.add_assoc]

theorem next_eq_error (failed : (cursor.next fileId).1 = .error fault) :
    fault.fileId = fileId ∧ ∃ before piece after, cursor.rest = before ++ piece ++ after ∧
      fault.span =
        ⟨cursor.offset + byteLength before, cursor.offset + byteLength (before ++ piece)⟩ ∧
      fault.cause.Tears piece after := by
  rcases stopsText_cases cursor.rest with atEnd | opens | goesOn
  next =>
    rw [next_of_rest_eq_nil atEnd] at failed
    cases failed
  next =>
    obtain ⟨inside, whole⟩ := List.isPrefixOf_iff_prefix.1 opens
    have dropped : cursor.rest.drop 2 = inside := by rw [← whole]; rfl
    rw [next_of_opens opens, dropped] at failed
    split at failed
    next unclosed =>
      cases failed
      exact ⟨rfl, [], tagOpening, inside, whole.symm, rfl, .openTag unclosed⟩
    next => cases failed
  next =>
    rw [next_of_goesOn goesOn] at failed
    split at failed
    next found =>
      cases failed
      exact splitText_eq_error found
    next => cases failed

theorem IsIn.marks_of_next (inside : cursor.IsIn source)
    (failed : (cursor.next fileId).1 = .error fault) :
    fault.fileId = fileId ∧ ∃ before piece after,
      fault.span.Marks source before piece after ∧ fault.cause.Tears piece after := by
  obtain ⟨front, whole, place⟩ := inside
  obtain ⟨file, before, piece, after, rest, span, tears⟩ := next_eq_error failed
  refine ⟨file, front ++ before, piece, after, ⟨?_, ?_⟩, tears⟩
  next => rw [whole, rest, ← List.append_assoc, ← List.append_assoc]
  next =>
    rw [span, place, List.append_assoc, byteLength_append front, byteLength_append front]

end Cursor

section

variable {fileId : Nat} {source : String} {fault : ParseError} {token : Token}

theorem Token.marks_of_mem_tokens (member : token ∈ (tokens fileId source).1)
    (tag : token.kind = .tag) :
    ∃ before after, token.span.Marks source.toList before token.text after ∧ token.text ≠ [] := by
  obtain ⟨place, behind, ⟨front, whole, offset⟩, -, read⟩ :=
    exists_next_of_mem_tokensFrom (Cursor.isIn_start source) member
  obtain ⟨piece, split, later, span, covers, -, -⟩ := Cursor.next_eq_ok read
  have notEmpty : piece ≠ [] := covers.ne_nil (by simp [tag])
  simp only [Token.Covers, tag] at covers
  rw [covers.1]
  refine ⟨front, behind.rest, ⟨?_, ?_⟩, notEmpty⟩
  next => rw [whole, split, List.append_assoc]
  next => rw [span, later, offset, byteLength_append]

theorem Item.exists_token_of_mem {tokens : List Token} {placed : List (Item × Span)}
    (read : ofTokens fileId tokens = .ok placed) :
    ∀ entry ∈ placed, ∃ token ∈ tokens, ofToken fileId token = .ok entry.1 ∧ token.span = entry.2 :=
  Fallible.forall_mem_of_mapM read fun token member _ first => by
    obtain ⟨item, ofToken, rfl⟩ := Fallible.map_eq_ok_iff.1 first
    exact ⟨token, member, ofToken, rfl⟩

theorem Token.kind_of_ofToken {item : Item} (read : Item.ofToken fileId token = .ok item)
    (noText : ∀ content, item ≠ .text content) : token.kind = .tag := by
  unfold Item.ofToken at read
  split at read
  next tag => exact tag
  next =>
    cases read
    exact absurd rfl (noText _)

theorem Builder.mem_of_finish {placed : List (Item × Span)} {documentEnd : Nat}
    (failed : (placed.foldl place {}).finish fileId documentEnd = .error fault) :
    fault.fileId = fileId ∧
      ∃ item, (item, fault.span) ∈ placed ∧ ∀ content, item ≠ .text content := by
  have tracks := tracks_empty.foldl_place placed
  rw [List.nil_append] at tracks
  generalize placed.foldl place {} = builder at tracks failed
  obtain ⟨root, pending, strayEnd⟩ := builder
  cases pending with
  | cons inner outer =>
    cases failed
    obtain ⟨before, head, inside, rfl, -, -⟩ := tracks.staysOpen 0 inner.span rfl
    exact ⟨rfl, .enter head, by simp, nofun⟩
  | nil =>
    cases strayEnd with
    | none => cases failed
    | some span =>
      cases failed
      obtain ⟨before, after, rfl, -, -⟩ := tracks.firstStray span rfl
      exact ⟨rfl, .leave, by simp, nofun⟩

theorem Document.marks_of_parse (failed : Document.parse source fileId = .error fault) :
    fault.fileId = fileId ∧ ∃ before piece after,
      fault.span.Marks source.toList before piece after ∧ piece ≠ [] ∧
      ((∃ token ∈ (tokens fileId source).1,
        token.kind = .tag ∧ token.text = piece ∧ token.span = fault.span) ∨
        fault.cause.Tears piece after) := by
  have origin := parse_eq_error failed
  cases stage : fault.cause.stage with
  | token =>
    rw [stage] at origin
    obtain ⟨place, inside, failed⟩ := exists_next_of_fault (Cursor.isIn_start source) origin
    obtain ⟨file, before, piece, after, marks, tears⟩ := inside.marks_of_next failed
    exact ⟨file, before, piece, after, marks, tears.ne_nil, .inr tears⟩
  | tag =>
    rw [stage] at origin
    obtain ⟨token, member, failed⟩ := origin
    obtain ⟨tag, cause, -, rfl⟩ := Item.ofToken_eq_error failed
    obtain ⟨before, after, marks, some⟩ := Token.marks_of_mem_tokens member tag
    exact ⟨rfl, before, token.text, after, marks, some, .inl ⟨token, member, tag, rfl, rfl⟩⟩
  | loop =>
    rw [stage] at origin
    obtain ⟨placed, read, finished⟩ := origin
    obtain ⟨file, item, entry, noText⟩ := Builder.mem_of_finish finished
    obtain ⟨token, member, readToken, span⟩ := Item.exists_token_of_mem read _ entry
    have tag := Token.kind_of_ofToken readToken noText
    obtain ⟨before, after, marks, some⟩ := Token.marks_of_mem_tokens member tag
    rw [span] at marks
    exact ⟨file, before, token.text, after, marks, some, .inl ⟨token, member, tag, rfl, span⟩⟩

end

/-- Whatever is wrong with a source, the error is of its file and can be shown there: the span is
not empty, ends within the source, and begins and ends between characters. It is that of a whole
tag, or of an opening mark without a closing one, or of a backslash and what it should not stand in
front of. -/
theorem Script.span_of_parse_error {source : String} {fileId : Nat} {fault : ParseError}
    (failed : Script.parse source fileId = .error fault) :
    fault.fileId = fileId ∧ fault.span.start < fault.span.stop ∧
      fault.span.stop ≤ source.utf8ByteSize ∧
      String.Pos.Raw.IsValid source ⟨fault.span.start⟩ ∧
      String.Pos.Raw.IsValid source ⟨fault.span.stop⟩ ∧
      ∃ before piece after, fault.span.Marks source.toList before piece after ∧
        ((∃ token ∈ (tokens fileId source).1,
          token.kind = .tag ∧ token.text = piece ∧ token.span = fault.span) ∨
          fault.cause.Tears piece after) := by
  obtain ⟨file, before, piece, after, marks, some, kind⟩ :=
    Document.marks_of_parse (Fallible.map_eq_error_iff.1 failed)
  obtain ⟨start, stop⟩ := marks.isValid
  exact ⟨file, marks.start_lt_stop some, stop.le_utf8ByteSize, start, stop, before, piece, after,
    marks, kind⟩

theorem Script.span_of_parse_error_in_wide_text :
    let escape := "é\\€"
    let loop := "é\x7b$for i 1 2$\x7d"
    Script.parse escape 4 = .error ⟨.malformedEscape '€', ⟨2, 6⟩, 4, []⟩ ∧
      String.Pos.Raw.IsValid escape ⟨2⟩ ∧ String.Pos.Raw.IsValid escape ⟨6⟩ ∧
      Script.parse loop 5 = .error ⟨.unterminatedLoop 1 15, ⟨2, 15⟩, 5, []⟩ ∧
      ∃ token ∈ (tokens 5 loop).1, token.kind = .tag ∧ token.span = ⟨2, 15⟩ := by
  intro escape loop
  have failedEscape : Script.parse escape 4 = .error ⟨.malformedEscape '€', ⟨2, 6⟩, 4, []⟩ := by cbv
  have failedLoop : Script.parse loop 5 = .error ⟨.unterminatedLoop 1 15, ⟨2, 15⟩, 5, []⟩ := by cbv
  obtain ⟨-, -, -, start, stop, -⟩ := span_of_parse_error failedEscape
  obtain ⟨-, -, -, -, -, before, piece, after, -, kind⟩ := span_of_parse_error failedLoop
  rcases kind with ⟨token, member, tag, -, span⟩ | tears
  next => exact ⟨failedEscape, start, stop, failedLoop, token, member, tag, span⟩
  next => cases tears

end Stencil
