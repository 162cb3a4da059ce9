import Stencil.Proofs.Document.Origin
import Stencil.Proofs.Document.RoundTrip

set_option autoImplicit false

namespace Stencil

open Fallible
open ParseError (carry)

theorem tokens_append {fileId : Nat} {first second : String}
    (complete : (tokens fileId first).2 = none)
    (seam : LeavesLast (tokens fileId first).1 second.toList) :
    tokens fileId (first ++ second) =
      ((tokens fileId first).1 ++ (tokens fileId second).1.map (Token.shift first.utf8ByteSize),
        (tokens fileId second).2.map (ParseError.shift first.utf8ByteSize)) := by
  have whole : Cursor.start (first ++ second) =
      ⟨(Cursor.start first).rest ++ second.toList, (Cursor.start first).offset⟩ := by
    rw [Cursor.start, String.toList_append]
    rfl
  have behind : (⟨second.toList, (Cursor.start first).offset +
      byteLength (Cursor.start first).rest⟩ : Cursor) =
        (Cursor.start second).shift first.utf8ByteSize := by
    have size : byteLength first.toList = first.utf8ByteSize := by
      rw [byteLength_eq, String.ofList_toList]
    simp [Cursor.start, Cursor.shift, size]
  rw [tokens, whole, tokensFrom_append complete seam, behind, tokensFrom_shift]
  rfl

namespace ParseError

variable {count : Nat} {e : ParseError}

theorem shift_of_stage (noLoop : e.cause.stage ≠ .loop) :
    e.shift count = ⟨e.cause, e.span.shift count, e.fileId, e.addedNotes⟩ := by
  obtain ⟨cause, span, fileId, notes⟩ := e
  cases cause <;> first | rfl | exact absurd rfl noLoop

theorem message_shift (count : Nat) (e : ParseError) : (e.shift count).message = e.message := by
  obtain ⟨cause, span, fileId, notes⟩ := e
  cases cause <;> rfl

theorem notes_shift (count : Nat) (e : ParseError) :
    (e.shift count).notes =
      match e.cause with
      | .unterminatedLoop _ documentEnd =>
        ("document ends at byte " ++ toString (count + documentEnd)) :: e.addedNotes
      | _ => e.notes := by
  obtain ⟨cause, span, fileId, notes⟩ := e
  cases cause <;> rfl

end ParseError

namespace Item

theorem ofToken_shift (fileId count : Nat) (token : Token) :
    ofToken fileId (token.shift count) = carry count id (ofToken fileId token) := by
  cases read : ofToken fileId token with
  | ok item =>
    obtain ⟨kind, text, span⟩ := token
    cases kind with
    | text | eof => exact read
    | tag => exact mapError_eq_ok_iff.2 (mapError_eq_ok_iff.1 read)
  | error fault =>
    have noLoop : fault.cause.stage ≠ .loop := by
      rw [stage_of_ofToken read]
      decide
    obtain ⟨kind, cause, readTag, rfl⟩ := ofToken_eq_error read
    obtain ⟨_, text, span⟩ := token
    cases kind
    rw [carry, ParseError.shift_of_stage noLoop, ofToken]
    exact congrArg (Except.mapError _) readTag

def shiftEntry (count : Nat) (entry : Item × Span) : Item × Span :=
  (entry.1, entry.2.shift count)

theorem ofTokens_cons (fileId : Nat) (token : Token) (rest : List Token) :
    ofTokens fileId (token :: rest) =
      (ofToken fileId token).bind fun item =>
        (ofTokens fileId rest).map fun later => (item, token.span) :: later := by
  rw [ofTokens, List.mapM_cons, ofTokens]
  cases ofToken fileId token with
  | error fault => rfl
  | ok item => cases List.mapM (m := Except ParseError) _ rest <;> rfl

theorem ofTokens_append (fileId : Nat) (before after : List Token) :
    ofTokens fileId (before ++ after) =
      (ofTokens fileId before).bind fun first => (ofTokens fileId after).map (first ++ ·) := by
  rw [ofTokens, List.mapM_append, ofTokens, ofTokens]
  cases List.mapM (m := Except ParseError) _ before with
  | error fault => rfl
  | ok first => cases List.mapM (m := Except ParseError) _ after <;> rfl

theorem ofTokens_shift (fileId count : Nat) (tokens : List Token) :
    ofTokens fileId (tokens.map (Token.shift count)) =
      carry count (List.map (shiftEntry count)) (ofTokens fileId tokens) := by
  induction tokens with
  | nil => rfl
  | cons token rest ih =>
    rw [List.map_cons, ofTokens_cons, ofTokens_cons, ih, ofToken_shift]
    cases ofToken fileId token with
    | error fault => rfl
    | ok item => cases ofTokens fileId rest <;> rfl

end Item

namespace Builder

-- The builder of a document that comes behind so many bytes and these nodes.
def behind (count : Nat) (front : List Node) (builder : Builder) : Builder where
  root := builder.root ++ front.reverse
  pending := builder.pending.map fun loop => { loop with span := loop.span.shift count }
  strayEnd := builder.strayEnd.map (Span.shift count)

variable (count : Nat) (front : List Node) (builder : Builder)

theorem add_behind (node : Node) :
    (builder.behind count front).add node = (builder.add node).behind count front := by
  obtain ⟨root, pending, strayEnd⟩ := builder
  cases pending <;> rfl

theorem place_behind (entry : Item × Span) :
    (builder.behind count front).place (Item.shiftEntry count entry) =
      (builder.place entry).behind count front := by
  obtain ⟨item, span⟩ := entry
  cases item with
  | text content | output elements => exact add_behind count front builder _
  | enter head => rfl
  | leave =>
    obtain ⟨root, pending, strayEnd⟩ := builder
    cases pending with
    | nil => cases strayEnd <;> rfl
    | cons inner outer => exact add_behind count front ⟨root, outer, strayEnd⟩ _

theorem foldl_place_behind (placed : List (Item × Span)) :
    (placed.map (Item.shiftEntry count)).foldl place (builder.behind count front) =
      (placed.foldl place builder).behind count front := by
  induction placed generalizing builder with
  | nil => rfl
  | cons entry rest ih => rw [List.map_cons, List.foldl_cons, List.foldl_cons, place_behind, ih]

theorem finish_behind (fileId documentEnd : Nat) :
    (builder.behind count front).finish fileId (count + documentEnd) =
      carry count (fun back => ⟨front ++ back.children⟩) (builder.finish fileId documentEnd) := by
  obtain ⟨root, pending, strayEnd⟩ := builder
  cases pending with
  | cons inner outer => simp [behind, finish, carry, ParseError.shift]
  | nil => cases strayEnd <;> simp [behind, finish, carry, ParseError.shift]

end Builder

namespace Document

variable {first second : String} {fileId : Nat} {front : Document}

theorem parse_append_eq_carry (parsed : Document.parse first fileId = .ok front)
    (seam : LeavesLast (tokens fileId first).1 second.toList) :
    Document.parse (first ++ second) fileId =
      carry first.utf8ByteSize (fun back => ⟨front.children ++ back.children⟩)
        (Document.parse second fileId) := by
  obtain ⟨complete, placed, read, finished⟩ := parse_eq_ok_iff_finish.1 parsed
  obtain ⟨closed, noStray, children⟩ := Builder.finish_eq_ok_iff.1 finished
  -- No loop is open at the seam and no end was stray: the builder carries nodes only.
  have built : placed.foldl Builder.place {} =
      Builder.behind first.utf8ByteSize front.children {} := by
    rw [children, Builder.behind, List.reverse_reverse]
    generalize placed.foldl Builder.place {} = builder at *
    obtain ⟨root, pending, strayEnd⟩ := builder
    cases closed
    cases noStray
    rfl
  rw [parse_eq, parse_eq second, tokens_append complete seam, Item.ofTokens_append, read,
    Item.ofTokens_shift, String.utf8ByteSize_append]
  cases Item.ofTokens fileId (tokens fileId second).1 with
  | error fault => rfl
  | ok items =>
    cases (tokens fileId second).2 with
    | some fault => rfl
    | none =>
      change ((placed ++ items.map _).foldl Builder.place {}).finish _ _ =
        carry _ _ (Builder.finish _ _ _)
      rw [List.foldl_append, built, Builder.foldl_place_behind, Builder.finish_behind]

theorem addedNotes_of_unterminatedLoop {source : String} {fault : ParseError}
    {loops documentEnd : Nat} (failed : Document.parse source fileId = .error fault)
    (unterminated : fault.cause = .unterminatedLoop loops documentEnd) : fault.addedNotes = [] := by
  have origin := parse_eq_error failed
  rw [unterminated] at origin
  obtain ⟨placed, -, finished⟩ := origin
  unfold Builder.finish at finished
  split at finished <;> cases finished <;> rfl

theorem leavesLast_of_seam
    (seam : first = "" ∨ (∃ last ∈ (tokens fileId first).1.getLast?, last.kind = .tag) ∨
      second = "" ∨ tagOpening <+: second.toList) :
    LeavesLast (tokens fileId first).1 second.toList := by
  intro last member
  rcases seam with rfl | ⟨other, isLast, tag⟩ | rfl | opens
  next =>
    have nothing : (tokens fileId "").1 = [] := by
      rw [tokens, tokensFrom_of_rest_eq_nil rfl]
    rw [nothing] at member
    cases member
  next =>
    obtain rfl := Option.some.inj (isLast.symm.trans member)
    exact .inl tag
  next => exact .inr rfl
  next => exact .inr (by simp [Cursor.stopsText, List.isPrefixOf_iff_prefix.2 opens])

/-- Behind a document that does not end within a text, or before one that begins with a tag, a
document is read as it is alone: its nodes follow those before it. If it cannot be read, it is
refused for the same reason, so many bytes later, and only the note on where it ends tells the
difference. -/
theorem parse_append (parsed : Document.parse first fileId = .ok front)
    (seam : first = "" ∨ (∃ last ∈ (tokens fileId first).1.getLast?, last.kind = .tag) ∨
      second = "" ∨ tagOpening <+: second.toList) :
    (∀ back, Document.parse second fileId = .ok back →
      Document.parse (first ++ second) fileId = .ok ⟨front.children ++ back.children⟩) ∧
    ∀ fault, Document.parse second fileId = .error fault →
      ∃ moved, Document.parse (first ++ second) fileId = .error moved ∧
        moved.message = fault.message ∧ moved.fileId = fault.fileId ∧
        moved.span =
          ⟨first.utf8ByteSize + fault.span.start, first.utf8ByteSize + fault.span.stop⟩ ∧
        match fault.cause with
        | .unterminatedLoop _ documentEnd =>
          fault.notes = ["document ends at byte " ++ toString documentEnd] ∧
            moved.notes = ["document ends at byte " ++ toString (first.utf8ByteSize + documentEnd)]
        | _ => moved.notes = fault.notes := by
  have joined := parse_append_eq_carry parsed (leavesLast_of_seam seam)
  refine ⟨fun back read => by rw [joined, read]; rfl, fun fault failed => ?_⟩
  rw [failed] at joined
  refine ⟨fault.shift first.utf8ByteSize, joined, ParseError.message_shift _ fault, rfl, rfl, ?_⟩
  have notes := ParseError.notes_shift first.utf8ByteSize fault
  cases cause : fault.cause with
  | unterminatedLoop loops documentEnd =>
    have nothing := addedNotes_of_unterminatedLoop failed cause
    rw [cause, nothing] at notes
    refine ⟨?_, notes⟩
    rw [ParseError.notes, cause, nothing]
    rfl
  | _ =>
    rw [cause] at notes
    exact notes

theorem parse_append_of_loop :
    let first := "é\x7b$=i$\x7d"
    let front : Document := ⟨[.text "é", .output [.var "i"]]⟩
    let torn := "b\x7b$for i 1 2$\x7d"
    let fault : ParseError := ⟨.unterminatedLoop 1 14, ⟨1, 14⟩, 2, []⟩
    Document.parse first 2 = .ok front ∧
      (∃ last ∈ (tokens 2 first).1.getLast?, last.kind = .tag) ∧
      Document.parse "b" 2 = .ok ⟨[.text "b"]⟩ ∧
      Document.parse (first ++ "b") 2 = .ok ⟨front.children ++ [.text "b"]⟩ ∧
      Document.parse torn 2 = .error fault ∧
      ∃ moved, Document.parse (first ++ torn) 2 = .error moved ∧ moved.message = fault.message ∧
        moved.span = ⟨9, 22⟩ ∧ moved.notes = ["document ends at byte 22"] := by
  intro first front torn fault
  obtain ⟨parsed, last, read, failed⟩ : Document.parse first 2 = .ok front ∧
      (tokens 2 first).1.getLast? = some ⟨.tag, "\x7b$=i$\x7d".toList, ⟨2, 8⟩⟩ ∧
      Document.parse "b" 2 = .ok ⟨[.text "b"]⟩ ∧ Document.parse torn 2 = .error fault := by
    refine ⟨?_, ?_, ?_, ?_⟩ <;> cbv
  have tag : ∃ last ∈ (tokens 2 first).1.getLast?, last.kind = .tag := ⟨_, last, rfl⟩
  have joined := (parse_append parsed (.inr (.inl tag))).1 ⟨[.text "b"]⟩ read
  obtain ⟨moved, failedThere, message, -, span, -, notes⟩ :=
    (parse_append parsed (.inr (.inl tag))).2 fault failed
  exact ⟨parsed, tag, read, joined, failed, moved, failedThere, message, span,
    notes.trans (by cbv)⟩

end Document

end Stencil
