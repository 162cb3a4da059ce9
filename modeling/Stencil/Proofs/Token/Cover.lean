import Stencil.Proofs.Tag.Scan
import Stencil.Proofs.Token

set_option autoImplicit false

namespace Stencil

theorem byteLength_append (before after : List Char) :
    byteLength (before ++ after) = byteLength before + byteLength after := by
  induction before with
  | nil => simp [byteLength]
  | cons c rest ih => simp [byteLength, ih, Nat.add_assoc]

theorem byteLength_eq (text : List Char) : byteLength text = (String.ofList text).utf8ByteSize := by
  induction text with
  | nil => rfl
  | cons c rest ih =>
    rw [String.ofList_cons, String.utf8ByteSize_append, String.utf8ByteSize_singleton, ← ih,
      byteLength]

theorem length_le_byteLength (text : List Char) : text.length ≤ byteLength text := by
  induction text with
  | nil => exact Nat.le_refl 0
  | cons c rest ih =>
    have := c.utf8Size_pos
    rw [List.length_cons, byteLength]
    omega

theorem byteLength_pos {text : List Char} (some : text ≠ []) : 0 < byteLength text :=
  Nat.lt_of_lt_of_le (List.length_pos_iff.2 some) (length_le_byteLength text)

def unescapeText : List Char → List Char
  | '\\' :: c :: rest =>
    if c = '\\' ∨ c = '{' then c :: unescapeText rest else '\\' :: unescapeText (c :: rest)
  | c :: rest => c :: unescapeText rest
  | [] => []

-- Whether a tag begins in a text, with an opening mark that no backslash hides.
def beginsTag : List Char → Bool
  | '\\' :: _ :: rest => beginsTag rest
  | c :: rest => tagOpening.isPrefixOf (c :: rest) || beginsTag rest
  | [] => false

theorem unescapeText_cons {c : Char} (notBackslash : c ≠ '\\') (rest : List Char) :
    unescapeText (c :: rest) = c :: unescapeText rest := by
  rw [unescapeText.eq_def]
  split
  next same => cases same; exact absurd rfl notBackslash
  next same => cases same; rfl
  next same => cases same

theorem beginsTag_cons {c : Char} (notBackslash : c ≠ '\\') (rest : List Char) :
    beginsTag (c :: rest) = (tagOpening.isPrefixOf (c :: rest) || beginsTag rest) := by
  rw [beginsTag.eq_def]
  split
  next same => cases same; exact absurd rfl notBackslash
  next same => cases same; rfl
  next same => cases same

-- What the text of a token is to the piece of the source that the token covers.
def Token.Covers (token : Token) (piece : List Char) : Prop :=
  match token.kind with
  | .text => token.text ≠ [] ∧ token.text = unescapeText piece ∧ beginsTag piece = false
  | .tag => token.text = piece ∧ ∃ inner, piece = tagOpening ++ inner ++ tagClosing
  | .eof => token.text = [] ∧ piece = []

theorem Token.Covers.ne_nil {token : Token} {piece : List Char} (covers : token.Covers piece)
    (notEnd : token.kind ≠ .eof) : piece ≠ [] := by
  rintro rfl
  unfold Covers at covers
  split at covers
  next => exact covers.1 covers.2.1
  next =>
    obtain ⟨-, inner, same⟩ := covers
    cases same
  next atEnd => exact notEnd atEnd

namespace TagScan

theorem read_eq_closed {scan : TagScan} {c : Char} (ends : scan.read c = closed)
    (goesOn : scan ≠ closed) : scan = dollar ∧ c = '}' := by
  cases scan with
  | closed => exact absurd rfl goesOn
  | dollar =>
    by_cases brace : c = '}'
    next => exact ⟨rfl, brace⟩
    next => simp only [read, if_neg brace, readOutside] at ends; grind
  | outside => simp only [read, readOutside] at ends; grind
  | quoted => simp only [read] at ends; grind
  | escaped => cases ends

theorem read_eq_dollar {scan : TagScan} {c : Char} (found : scan.read c = dollar) : c = '$' := by
  cases scan <;> simp only [read, readOutside] at found <;> grind

theorem closing_of_split? {scan : TagScan} {source inner after : List Char}
    (goesOn : scan ≠ closed) (found : split? scan source = some (inner, after)) :
    tagClosing <:+ inner ∨ scan = dollar ∧ inner = ['}'] := by
  induction source generalizing scan inner with
  | nil => simp [split?] at found
  | cons c rest ih =>
    simp only [split?, feedCharacter_eq] at found
    split at found
    next ends =>
      cases found
      obtain ⟨before, rfl⟩ := read_eq_closed ends goesOn
      exact .inr ⟨before, rfl⟩
    next notEnd =>
      obtain ⟨⟨tail, later⟩, split, same⟩ := Option.map_eq_some_iff.1 found
      cases same
      rcases ih notEnd split with closing | ⟨half, rfl⟩
      next => exact .inl (closing.trans (List.suffix_cons c tail))
      next =>
        obtain rfl := read_eq_dollar half
        exact .inl List.suffix_rfl

end TagScan

namespace Cursor

theorem splitText_eq_ok {fileId offset : Nat} {source text : List Char} {after : Cursor}
    (read : splitText fileId offset source = .ok (text, after)) :
    ∃ piece, source = piece ++ after.rest ∧ after.offset = offset + byteLength piece ∧
      text = unescapeText piece ∧ beginsTag piece = false := by
  fun_induction splitText fileId offset source generalizing text with
  | case1 | case5 =>
    cases read
    exact ⟨[], rfl, rfl, rfl, rfl⟩
  | case2 | case4 => cases read
  | case3 offset c rest plain ih =>
    obtain ⟨⟨tail, later⟩, split, same⟩ := Fallible.map_eq_ok_iff.1 read
    cases same
    obtain ⟨piece, rfl, place, resolved, none⟩ := ih split
    refine ⟨'\\' :: c :: piece, rfl, ?_, ?_, none⟩
    next =>
      have narrow : c.utf8Size = 1 := by rcases plain with rfl | rfl <;> rfl
      rw [place, byteLength, byteLength, narrow]
      have : '\\'.utf8Size = 1 := rfl
      omega
    next => rw [unescapeText, if_pos plain, resolved]
  | case6 offset c rest single escape plain ih =>
    have notBackslash : c ≠ '\\' := by
      rintro rfl
      cases rest with
      | nil => exact single rfl rfl
      | cons d later => exact escape d later rfl rfl
    obtain ⟨⟨tail, later⟩, split, same⟩ := Fallible.map_eq_ok_iff.1 read
    cases same
    obtain ⟨piece, rfl, place, resolved, none⟩ := ih split
    refine ⟨c :: piece, rfl, ?_, ?_, ?_⟩
    next => rw [place, byteLength, Nat.add_assoc]
    next => rw [unescapeText_cons notBackslash, resolved]
    next =>
      rw [beginsTag_cons notBackslash, none, Bool.or_false, Bool.eq_false_iff]
      intro opens
      exact plain (List.isPrefixOf_iff_prefix.2
        ((List.isPrefixOf_iff_prefix.1 opens).trans (List.prefix_append _ after.rest)))

theorem next_eq_ok {fileId : Nat} {cursor after : Cursor} {token : Token}
    (read : cursor.next fileId = (.ok token, after)) :
    ∃ piece, cursor.rest = piece ++ after.rest ∧ after.offset = cursor.offset + byteLength piece ∧
      token.span = ⟨cursor.offset, after.offset⟩ ∧ token.Covers piece ∧
      (token.kind = .eof ↔ cursor.rest = []) ∧
      (token.kind = .text → stopsText cursor.rest = false ∧ stopsText after.rest = true) := by
  rw [next_eq] at read
  split at read
  next empty =>
    cases read
    have atEnd := List.isEmpty_iff.1 empty
    exact ⟨[], rfl, rfl, rfl, ⟨rfl, rfl⟩, by simp [atEnd], nofun⟩
  next more =>
    have notEnd : cursor.rest ≠ [] := by simpa using more
    split at read
    next opens =>
      obtain ⟨inside, whole⟩ := List.isPrefixOf_iff_prefix.1 opens
      rw [readTag_eq] at read
      split at read
      next => cases read
      next inner later found =>
        cases read
        have tail := TagScan.split?_append found
        rw [← whole] at tail
        obtain ⟨body, rfl⟩ : tagClosing <:+ inner := by
          rcases TagScan.closing_of_split? (by decide) found with closing | ⟨half, -⟩
          next => exact closing
          next => cases half
        refine ⟨tagOpening ++ (body ++ tagClosing), ?_, ?_, rfl, ⟨rfl, body, ?_⟩, by simp [notEnd],
          nofun⟩
        next => rw [← whole, List.append_assoc, ← tail]; rfl
        next => rw [byteLength_append tagOpening, ← Nat.add_assoc]; rfl
        next => rw [List.append_assoc]
    next plain =>
      rw [readText_eq] at read
      split at read
      next => cases read
      next text later split =>
        cases read
        have goesOn : stopsText cursor.rest = false := by
          rw [stopsText, Bool.eq_false_iff.2 more, Bool.false_or, Bool.eq_false_iff.2 plain]
        obtain ⟨piece, whole, place, resolved, none⟩ := splitText_eq_ok split
        exact ⟨piece, whole, place, rfl, ⟨ne_nil_of_splitText goesOn split, resolved, none⟩,
          by simp [notEnd], fun _ => ⟨goesOn, stopsText_of_splitText split⟩⟩

theorem eq_of_next_error {fileId : Nat} {cursor after : Cursor} {fault : ParseError}
    (failed : cursor.next fileId = (.error fault, after)) : after = cursor := by
  rw [next_eq] at failed
  split at failed
  next => cases failed
  next =>
    split at failed
    next =>
      rw [readTag_eq] at failed
      split at failed <;> cases failed
      rfl
    next =>
      rw [readText_eq] at failed
      split at failed <;> cases failed
      rfl

def move (fileId : Nat) (cursor : Cursor) : Cursor :=
  (cursor.next fileId).2

def answer (fileId : Nat) (cursor : Cursor) (calls : Nat) : Except ParseError Token :=
  (((move fileId)^[calls] cursor).next fileId).1

def goesOn : Except ParseError Token → Bool
  | .ok token => token.kind ≠ .eof
  | .error _ => false

variable {fileId : Nat} {cursor : Cursor}

theorem answer_succ (fileId : Nat) (cursor : Cursor) (calls : Nat) :
    answer fileId cursor (calls + 1) = answer fileId (cursor.move fileId) calls := rfl

theorem next_of_rest_eq_nil (atEnd : cursor.rest = []) :
    cursor.next fileId = (.ok ⟨.eof, [], ⟨cursor.offset, cursor.offset⟩⟩, cursor) := by
  rw [next_eq, atEnd]
  rfl

theorem move_of_ends (ends : goesOn (cursor.answer fileId 0) = false) :
    cursor.move fileId = cursor := by
  rcases read : cursor.next fileId with ⟨fault | token, after⟩
  next =>
    rw [move, read]
    exact eq_of_next_error read
  next =>
    have isEnd : token.kind = .eof := by
      change goesOn (cursor.next fileId).1 = false at ends
      rw [read] at ends
      simpa [goesOn] using ends
    obtain ⟨-, -, -, -, -, eof, -⟩ := next_eq_ok read
    rw [move, next_of_rest_eq_nil (eof.1 isEnd)]

theorem answer_of_ends (ends : goesOn (cursor.answer fileId 0) = false) (calls : Nat) :
    cursor.answer fileId calls = cursor.answer fileId 0 := by
  induction calls with
  | zero => rfl
  | succ calls ih => rw [answer_succ, move_of_ends ends, ih]

theorem length_move_lt (continues : goesOn (cursor.answer fileId 0) = true) :
    (cursor.move fileId).rest.length < cursor.rest.length := by
  change goesOn (cursor.next fileId).1 = true at continues
  rw [move]
  rcases read : cursor.next fileId with ⟨fault | token, after⟩
  next =>
    rw [read] at continues
    cases continues
  next =>
    rw [read] at continues
    obtain ⟨-, -, -, -, -, eof, -⟩ := next_eq_ok read
    refine length_next_lt read fun atEnd => ?_
    simp [goesOn, eof.2 atEnd] at continues

theorem exists_answer_ends (fileId : Nat) (cursor : Cursor) :
    ∃ calls ≤ cursor.rest.length, (∀ earlier < calls, goesOn (cursor.answer fileId earlier) = true) ∧
      goesOn (cursor.answer fileId calls) = false ∧
      ∀ later ≥ calls, cursor.answer fileId later = cursor.answer fileId calls := by
  induction size : cursor.rest.length using Nat.strong_induction_on generalizing cursor with
  | _ size ih =>
    cases first : goesOn (cursor.answer fileId 0) with
    | false => exact ⟨0, Nat.zero_le _, nofun, first, fun later _ => answer_of_ends first later⟩
    | true =>
      obtain ⟨calls, few, before, ends, same⟩ :=
        ih _ (size ▸ length_move_lt first) (cursor.move fileId) rfl
      refine ⟨calls + 1, ?_, ?_, ends, ?_⟩
      next => have := length_move_lt first; omega
      next =>
        intro earlier less
        cases earlier with
        | zero => exact first
        | succ earlier => exact before earlier (Nat.lt_of_succ_lt_succ less)
      next =>
        intro later more
        cases later with
        | zero => omega
        | succ later => exact same later (Nat.le_of_succ_le_succ more)

def IsIn (cursor : Cursor) (source : List Char) : Prop :=
  ∃ before, source = before ++ cursor.rest ∧ cursor.offset = byteLength before

theorem IsIn.move {source : List Char} (inside : cursor.IsIn source) (fileId : Nat) :
    (cursor.move fileId).IsIn source := by
  rw [Cursor.move]
  rcases read : cursor.next fileId with ⟨fault | token, after⟩
  next =>
    obtain rfl := eq_of_next_error read
    exact inside
  next =>
    obtain ⟨before, whole, place⟩ := inside
    obtain ⟨piece, split, later, -⟩ := next_eq_ok read
    refine ⟨before ++ piece, by rw [whole, split, List.append_assoc], ?_⟩
    rw [later, place, byteLength_append]

theorem IsIn.iterate {source : List Char} (inside : cursor.IsIn source) (fileId calls : Nat) :
    ((Cursor.move fileId)^[calls] cursor).IsIn source := by
  induction calls generalizing cursor with
  | zero => exact inside
  | succ calls ih => exact ih (inside.move fileId)

theorem isIn_start (source : String) : (start source).IsIn source.toList :=
  ⟨[], rfl, rfl⟩

theorem next_of_answer {calls : Nat} {token : Token}
    (answered : cursor.answer fileId calls = .ok token) :
    ((Cursor.move fileId)^[calls] cursor).next fileId =
      (.ok token, (Cursor.move fileId)^[calls + 1] cursor) := by
  rw [Function.iterate_succ_apply']
  exact Prod.ext answered rfl

theorem answer_succ_cover {calls : Nat} {token next : Token}
    (answered : cursor.answer fileId calls = .ok token)
    (answeredNext : cursor.answer fileId (calls + 1) = .ok next) :
    next.span.start = token.span.stop ∧ ¬ (token.kind = .text ∧ next.kind = .text) := by
  obtain ⟨-, -, -, span, -, -, stops⟩ := next_eq_ok (next_of_answer answered)
  obtain ⟨-, -, -, spanNext, -, -, starts⟩ := next_eq_ok (next_of_answer answeredNext)
  refine ⟨by rw [span, spanNext], fun texts => ?_⟩
  -- Behind a text there is a tag or nothing, and in front of one there is neither.
  exact Bool.false_ne_true ((starts texts.2).1.symm.trans (stops texts.1).2)

/-- The tokens that a source is read as cover it piece by piece from its first byte on, and no two
texts lie side by side. After at most as many calls as the source has bytes the next one finds the
end of the source or an error, and so do all calls after it. -/
theorem answers_cover (source : String) (fileId : Nat) :
    let answer := (start source).answer fileId
    (∀ calls token, answer calls = .ok token →
      (∃ before piece after, source.toList = before ++ piece ++ after ∧
        token.span = ⟨byteLength before, byteLength (before ++ piece)⟩ ∧ token.Covers piece) ∧
      (token.kind = .eof → token.span = ⟨source.utf8ByteSize, source.utf8ByteSize⟩) ∧
      (token.kind ≠ .eof → token.span.start < token.span.stop) ∧
      (calls = 0 → token.span.start = 0) ∧
      ∀ next, answer (calls + 1) = .ok next →
        next.span.start = token.span.stop ∧ ¬ (token.kind = .text ∧ next.kind = .text)) ∧
    ∃ calls ≤ source.utf8ByteSize, (∀ earlier < calls, goesOn (answer earlier) = true) ∧
      goesOn (answer calls) = false ∧ ∀ later ≥ calls, answer later = answer calls := by
  intro answer
  refine ⟨fun calls token answered => ?_, ?_⟩
  next =>
    obtain ⟨before, whole, place⟩ := (isIn_start source).iterate fileId calls
    obtain ⟨piece, split, later, span, covers, eof, -⟩ := next_eq_ok (next_of_answer answered)
    rw [split, ← List.append_assoc] at whole
    rw [later, place, ← byteLength_append] at span
    have len : byteLength source.toList = source.utf8ByteSize := by
      rw [byteLength_eq, String.ofList_toList]
    refine ⟨⟨before, piece, _, whole, span, covers⟩, fun atEnd => ?_, fun notEnd => ?_,
      ?_, fun next answeredNext => answer_succ_cover answered answeredNext⟩
    next =>
      obtain ⟨rfl, nothing⟩ := List.append_eq_nil_iff.1 (split.symm.trans (eof.1 atEnd))
      rw [nothing, List.append_nil] at whole
      rw [span, ← whole, len, ← len, whole, List.append_nil]
    next =>
      have := byteLength_pos (covers.ne_nil notEnd)
      rw [span, byteLength_append]
      dsimp only
      omega
    next =>
      rintro rfl
      rw [span]
      exact place.symm
  next =>
    obtain ⟨calls, few, rest⟩ := exists_answer_ends fileId (start source)
    refine ⟨calls, ?_, rest⟩
    calc
      calls ≤ source.toList.length := few
      _ ≤ byteLength source.toList := length_le_byteLength _
      _ = source.utf8ByteSize := by rw [byteLength_eq, String.ofList_toList]

theorem answers_cover_of_escape :
    let source := "é\\\x7b\x7b$=1$\x7d"
    let text : Token := ⟨.text, ['é', '{'], ⟨0, 4⟩⟩
    let tag : Token := ⟨.tag, ['{', '$', '=', '1', '$', '}'], ⟨4, 10⟩⟩
    let answer := (start source).answer 7
    answer 0 = .ok text ∧ answer 1 = .ok tag ∧
      (∃ before piece after, source.toList = before ++ piece ++ after ∧
        text.span = ⟨byteLength before, byteLength (before ++ piece)⟩ ∧ text.Covers piece) ∧
      tag.span.start = text.span.stop := by
  intro source text tag answer
  have first : (start source).answer 7 0 = .ok text := by cbv
  have second : (start source).answer 7 1 = .ok tag := by cbv
  obtain ⟨cover, -, -, -, next⟩ := (answers_cover source 7).1 0 text first
  exact ⟨first, second, cover, (next tag second).1⟩

end Cursor

end Stencil
