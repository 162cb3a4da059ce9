import Stencil.Document.Parser
import Stencil.Proofs.Fallible
import Stencil.Proofs.Token.Stream

set_option autoImplicit false

namespace Stencil

open Fallible
open ParseError (Cause)

namespace ParseError

inductive Stage
  | token
  | tag
  | loop
  deriving DecidableEq

def Cause.stage : Cause → Stage
  | malformedEscape _ | danglingEscape | unterminatedTag => .token
  | emptyTag | unknownKeyword _ | operandCount _ | loopVariable _ _ | loopOperand _ _ _
  | functionName _ | number _ | unrecognized _ | unterminatedText _ | textEscape _
  | bareQuote _ => .tag
  | unterminatedLoop _ _ | unmatchedEnd => .loop

end ParseError

def IsTagCause (cause : Cause) : Prop :=
  cause.stage = .tag

namespace Element

theorem ofWord_eq_error {word : List Char} {cause : Cause} (failed : ofWord word = .error cause) :
    (word.head? = some '"' ∧ ofQuoted word = .error cause) ∨
      ∃ text, cause = .functionName text ∨ cause = .number text ∨ cause = .unrecognized text := by
  unfold ofWord at failed
  split at failed
  next quote => exact .inl ⟨quote, failed⟩
  next =>
    refine .inr ⟨String.ofList word, ?_⟩
    split at failed
    next =>
      unfold ofCall at failed
      split at failed <;> cases failed
      exact .inl rfl
    next =>
      split at failed
      next => cases failed
      next =>
        split at failed
        next =>
          split at failed <;> cases failed
          exact .inr (.inl rfl)
        next =>
          split at failed <;> cases failed
          exact .inr (.inr rfl)

theorem faultsOnly_ofWord (word : List Char) : FaultsOnly IsTagCause (ofWord word) := by
  intro cause failed
  rcases ofWord_eq_error failed with ⟨-, failed⟩ | ⟨text, rfl | rfl | rfl⟩
  next =>
    unfold ofQuoted at failed
    split at failed <;> cases failed <;> rfl
  next => rfl
  next => rfl
  next => rfl

end Element

namespace Tag

theorem faultsOnly_splitWordsFrom (scan : WordScan) (pending text : List Char) :
    FaultsOnly IsTagCause (splitWordsFrom scan pending text) := by
  -- Only the end of the text within quotes is a fault; all other cases go on.
  fun_induction splitWordsFrom scan pending text with
  | case1 => exact faultsOnly_ok _
  | case2 | case3 => exact faultsOnly_error rfl
  | case4 _ _ ih | case5 _ _ _ ih | case6 _ _ _ _ _ _ ih | case7 _ _ _ _ _ _ _ ih
  | case10 _ _ _ ih => exact ih.map _
  | case8 _ _ _ _ _ _ _ ih | case9 _ _ ih | case11 _ _ _ _ _ ih | case12 _ _ _ ih => exact ih

theorem faultsOnly_readElements (body : List Char) : FaultsOnly IsTagCause (readElements body) :=
  (faultsOnly_splitWordsFrom _ _ _).bind fun _ _ =>
    faultsOnly_mapM fun word _ => Element.faultsOnly_ofWord word

theorem faultsOnly_readLoopOperand (part : LoopPart) (word : List Char) :
    FaultsOnly IsTagCause (readLoopOperand part word) := by
  refine (Element.faultsOnly_ofWord word).bind fun element _ => ?_
  split
  next => exact faultsOnly_ok _
  next => exact faultsOnly_error rfl

theorem faultsOnly_readLoopVariable (word : List Char) :
    FaultsOnly IsTagCause (readLoopVariable word) := by
  refine (Element.faultsOnly_ofWord word).bind fun element _ => ?_
  cases element <;> first | exact faultsOnly_ok _ | exact faultsOnly_error rfl

theorem faultsOnly_readLoopHead (body : List Char) : FaultsOnly IsTagCause (readLoopHead body) := by
  unfold readLoopHead
  split
  next name start stop _ =>
    exact (faultsOnly_readLoopVariable name).bind fun _ _ =>
      (faultsOnly_readLoopOperand .start start).bind fun _ _ =>
        (faultsOnly_readLoopOperand .stop stop).bind fun _ _ => faultsOnly_ok _
  next name start stop step _ =>
    exact (faultsOnly_readLoopVariable name).bind fun _ _ =>
      (faultsOnly_readLoopOperand .start start).bind fun _ _ =>
        (faultsOnly_readLoopOperand .stop stop).bind fun _ _ =>
          (faultsOnly_readLoopOperand .step step).bind fun _ _ => faultsOnly_ok _
  next => exact faultsOnly_error rfl

theorem faultsOnly_read (body : List Char) : FaultsOnly IsTagCause (read body) := by
  unfold read
  split
  next rest _ => exact (faultsOnly_readLoopHead rest).map _
  next =>
    split
    next => exact faultsOnly_ok _
    next =>
      split
      next => exact (faultsOnly_readElements _).map _
      next => split <;> exact faultsOnly_error rfl

end Tag

theorem Item.ofToken_eq_error {fileId : Nat} {token : Token} {fault : ParseError}
    (failed : ofToken fileId token = .error fault) :
    token.kind = .tag ∧ ∃ cause, Tag.read token.body = .error cause ∧
      fault = ⟨cause, token.span, fileId, []⟩ := by
  unfold ofToken at failed
  split at failed
  next kind =>
    cases read : Tag.read token.body with
    | ok item =>
      rw [read] at failed
      cases failed
    | error cause =>
      rw [read] at failed
      cases failed
      exact ⟨kind, cause, rfl, rfl⟩
  next => cases failed

theorem Item.stage_of_ofToken {fileId : Nat} {token : Token} {fault : ParseError}
    (failed : ofToken fileId token = .error fault) : fault.cause.stage = .tag := by
  obtain ⟨-, cause, read, rfl⟩ := ofToken_eq_error failed
  exact Tag.faultsOnly_read token.body cause read

namespace Cursor

theorem stage_of_splitText {fileId offset : Nat} {source : List Char} :
    FaultsOnly (fun fault => fault.cause.stage = .token) (splitText fileId offset source) := by
  induction offset, source using splitText_induction with
  | stops offset rest stops =>
    rw [splitText_of_stopsText stops]
    exact faultsOnly_ok _
  | dangling offset => exact faultsOnly_error rfl
  | malformed offset c rest unknown =>
    rw [splitText, if_neg unknown]
    exact faultsOnly_error rfl
  | escape offset c rest known ih =>
    rw [splitText_escape known]
    exact ih.map _
  | plain offset c rest notBackslash goesOn ih =>
    rw [splitText_cons notBackslash goesOn]
    exact ih.map _

theorem stage_of_next {fileId : Nat} {cursor : Cursor} {fault : ParseError}
    (failed : (cursor.next fileId).1 = .error fault) : fault.cause.stage = .token := by
  rcases stopsText_cases cursor.rest with atEnd | opens | goesOn
  next =>
    rw [next_of_rest_eq_nil atEnd] at failed
    cases failed
  next =>
    rw [next_of_opens opens] at failed
    split at failed <;> cases failed
    rfl
  next =>
    rw [next_of_goesOn goesOn] at failed
    split at failed
    next found =>
      cases failed
      exact stage_of_splitText fault found
    next => cases failed

end Cursor

theorem stage_of_tokens {fileId : Nat} {source : String} {fault : ParseError}
    (failed : (tokens fileId source).2 = some fault) : fault.cause.stage = .token := by
  obtain ⟨place, -, failed⟩ := exists_next_of_fault (Cursor.isIn_start source) failed
  exact Cursor.stage_of_next failed

theorem Builder.stage_of_finish {builder : Builder} {fileId documentEnd : Nat} {fault : ParseError}
    (failed : builder.finish fileId documentEnd = .error fault) : fault.cause.stage = .loop := by
  unfold finish at failed
  split at failed <;> cases failed <;> rfl

namespace Document

theorem parse_eq (source : String) (fileId : Nat) :
    Document.parse source fileId =
      (Item.ofTokens fileId (tokens fileId source).1).bind fun items =>
        match (tokens fileId source).2 with
        | some fault => .error fault
        | none => (items.foldl Builder.place {}).finish fileId source.utf8ByteSize := by
  unfold Document.parse
  generalize tokens fileId source = tokenized
  obtain ⟨tokens, fault⟩ := tokenized
  dsimp only
  cases fault <;> cases Item.ofTokens fileId tokens <;> rfl

theorem parse_eq_error {source : String} {fileId : Nat} {fault : ParseError}
    (failed : Document.parse source fileId = .error fault) :
    match fault.cause.stage with
    | .token => (tokens fileId source).2 = some fault
    | .tag => ∃ token ∈ (tokens fileId source).1, Item.ofToken fileId token = .error fault
    | .loop => ∃ placed, Item.ofTokens fileId (tokens fileId source).1 = .ok placed ∧
      (placed.foldl Builder.place {}).finish fileId source.utf8ByteSize = .error fault := by
  rw [parse_eq] at failed
  cases read : Item.ofTokens fileId (tokens fileId source).1 with
  | error first =>
    rw [read] at failed
    cases failed
    have each : FaultsOnly
        (fun fault => ∃ token ∈ (tokens fileId source).1, Item.ofToken fileId token = .error fault)
        (Item.ofTokens fileId (tokens fileId source).1) :=
      faultsOnly_mapM fun token member _ failed => ⟨token, member, map_eq_error_iff.1 failed⟩
    obtain ⟨token, member, failed⟩ := each _ read
    rw [Item.stage_of_ofToken failed]
    exact ⟨token, member, failed⟩
  | ok items =>
    rw [read] at failed
    cases torn : (tokens fileId source).2 with
    | some first =>
      rw [torn] at failed
      cases failed
      rw [stage_of_tokens torn]
    | none =>
      rw [torn] at failed
      rw [Builder.stage_of_finish failed]
      exact ⟨items, rfl, failed⟩

end Document

end Stencil
