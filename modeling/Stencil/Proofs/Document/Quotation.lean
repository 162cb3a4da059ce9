import Stencil.Proofs.Document.Origin
import Stencil.Proofs.Tag.Quotes

set_option autoImplicit false

namespace Stencil

open ParseError (Cause)

namespace Cursor

variable {fileId : Nat} {cursor after : Cursor} {token : Token}

theorem exists_closing_of_next (read : cursor.next fileId = (.ok token, after))
    (tag : token.kind = .tag) :
    ∃ inner, cursor.rest = tagOpening ++ (inner ++ tagClosing ++ after.rest) ∧
      token.text = tagOpening ++ (inner ++ tagClosing) ∧ token.span.start = cursor.offset ∧
      TagScan.ClosesAt (Text.utf8Bytes (inner ++ tagClosing ++ after.rest)) (byteLength inner) ∧
      Tag.IsFirstClosing (inner ++ tagClosing ++ after.rest) inner := by
  rcases stopsText_cases cursor.rest with atEnd | opens | goesOn
  next =>
    rw [next_of_rest_eq_nil atEnd] at read
    cases read
    cases tag
  next =>
    rw [next_of_opens opens] at read
    split at read
    next => cases read
    next text later found =>
      cases read
      obtain ⟨source, whole⟩ := List.isPrefixOf_iff_prefix.1 opens
      have inside : cursor.rest.drop 2 = source := by rw [← whole]; rfl
      rw [inside] at found
      obtain ⟨inner, rfl, first⟩ := TagScan.isFirstClosing_of_split? found
      have split := TagScan.split?_append found
      subst split
      exact ⟨inner, whole.symm, rfl, rfl, TagScan.closesAt_of_split? found, first⟩
  next =>
    rw [next_of_goesOn goesOn] at read
    split at read <;> cases read
    cases tag

end Cursor

theorem Token.behind_body {token : Token} {inner : List Char}
    (text : token.text = tagOpening ++ (inner ++ tagClosing))
    (closed : Tag.WordScan.outside.behind inner = .outside) :
    Tag.WordScan.outside.behind token.body = .outside := by
  have body : token.body = Text.trim inner := by
    rw [← Token.body_tag inner token.span, Token.body, text]
    rfl
  rw [body]
  exact Tag.WordScan.behind_trim closed

namespace Tag

theorem read_output_eq (body : List Char) :
    read ('=' :: body) = (readElements body).map .output := by
  have noLoop : afterKeyword? "FOR".toList ('=' :: body) = none := by simp [afterKeyword?]
  have noEnd : ('=' :: body).map Char.toUpper ≠ "END".toList := by simp
  simp only [read, noLoop, if_neg noEnd]

def IsBrokenQuotation (cause : Cause) : Prop :=
  ∃ word, cause = .unterminatedText word ∨ cause = .bareQuote word

theorem IsBrokenQuotation.stage {cause : Cause} (broken : IsBrokenQuotation cause) :
    cause.stage = .tag := by
  obtain ⟨word, rfl | rfl⟩ := broken <;> rfl

theorem not_isBrokenQuotation_of_ofWord {word : List Char}
    (whole : word.head? = some '"' → IsQuotation word) :
    Fallible.FaultsOnly (fun cause => ¬ IsBrokenQuotation cause) (Element.ofWord word) := by
  intro cause failed
  rcases Element.ofWord_eq_error failed with ⟨quote, -⟩ | ⟨text, rfl | rfl | rfl⟩
  next =>
    rcases Element.ofWord_of_isQuotation (whole quote) with ⟨content, read⟩ | ⟨c, read⟩
    next =>
      rw [read] at failed
      cases failed
    next =>
      rw [read] at failed
      cases failed
      simp [IsBrokenQuotation]
  all_goals simp [IsBrokenQuotation]

theorem not_isBrokenQuotation_of_readElements {body : List Char} {words : List (List Char)}
    (split : splitWords body = .ok words) (whole : AreWhole words) :
    Fallible.FaultsOnly (fun cause => ¬ IsBrokenQuotation cause) (readElements body) := by
  rw [readElements, split]
  exact Fallible.faultsOnly_mapM fun word member =>
    not_isBrokenQuotation_of_ofWord (whole word member)

end Tag

namespace Script

open Tag (IsBrokenQuotation IsFirstClosing IsQuotation)

variable {source : String} {fileId : Nat} {token : Token}

theorem exists_closing_of_mem_tokens (member : token ∈ (tokens fileId source).1)
    (tag : token.kind = .tag) :
    ∃ before inner after,
      source.toList = before ++ tagOpening ++ (inner ++ tagClosing ++ after) ∧
      token.text = tagOpening ++ (inner ++ tagClosing) ∧ token.span.start = byteLength before ∧
      TagScan.ClosesAt (Text.utf8Bytes (inner ++ tagClosing ++ after)) (byteLength inner) ∧
      IsFirstClosing (inner ++ tagClosing ++ after) inner := by
  obtain ⟨place, behind, ⟨before, whole, offset⟩, -, read⟩ :=
    exists_next_of_mem_tokensFrom (Cursor.isIn_start source) member
  obtain ⟨inner, rest, text, start, closes⟩ := Cursor.exists_closing_of_next read tag
  refine ⟨before, inner, behind.rest, ?_, text, start.trans offset, closes⟩
  rw [whole, rest, List.append_assoc before]

theorem exists_splitWords_of_mem_tokens (member : token ∈ (tokens fileId source).1)
    (tag : token.kind = .tag) {body : List Char} (output : token.body = '=' :: body) :
    ∃ words, Tag.splitWords body = .ok words ∧ Tag.AreWhole words := by
  obtain ⟨before, inner, after, -, text, -, -, first⟩ := exists_closing_of_mem_tokens member tag
  have closed := Token.behind_body text first.outside
  rw [output] at closed
  exact Tag.exists_splitWords closed

/-- The two readers of quotes agree. A tag ends where a search over bytes and one over characters
both find the first closing mark outside quotes; what an output tag encloses is split into words, of
which those that begin with a quote are whole quotations and have at most an escape amiss. So a
document is refused for a broken quotation in the head of a loop only. -/
theorem parse_quotations (source : String) (fileId : Nat) :
    (∀ token ∈ (tokens fileId source).1, token.kind = .tag →
      (∃ before inner after,
        source.toList = before ++ tagOpening ++ (inner ++ tagClosing ++ after) ∧
        token.text = tagOpening ++ (inner ++ tagClosing) ∧ token.span.start = byteLength before ∧
        TagScan.ClosesAt (Text.utf8Bytes (inner ++ tagClosing ++ after)) (byteLength inner) ∧
        IsFirstClosing (inner ++ tagClosing ++ after) inner) ∧
      ∀ body, token.body = '=' :: body →
        ∃ words, Tag.splitWords body = .ok words ∧
          ∀ word ∈ words, word.head? = some '"' →
            IsQuotation word ∧
              ((∃ content, Element.ofWord word = .ok (.text content)) ∨
                ∃ c, Element.ofWord word = .error (.textEscape c))) ∧
    ∀ fault, Script.parse source fileId = .error fault → IsBrokenQuotation fault.cause →
      ∃ token ∈ (tokens fileId source).1, token.kind = .tag ∧ token.span = fault.span ∧
        Item.ofToken fileId token = .error fault ∧ token.body.head? ≠ some '=' := by
  refine ⟨fun token member tag => ⟨exists_closing_of_mem_tokens member tag, fun body output => ?_⟩,
    fun fault failed broken => ?_⟩
  next =>
    obtain ⟨words, split, whole⟩ := exists_splitWords_of_mem_tokens member tag output
    refine ⟨words, split, fun word member quote => ?_⟩
    exact ⟨whole word member quote, Element.ofWord_of_isQuotation (whole word member quote)⟩
  next =>
    have origin := Document.parse_eq_error (Fallible.map_eq_error_iff.1 failed)
    rw [broken.stage] at origin
    obtain ⟨token, member, failed⟩ := origin
    obtain ⟨tag, cause, read, rfl⟩ := Item.ofToken_eq_error failed
    refine ⟨token, member, tag, rfl, failed, fun mark => ?_⟩
    obtain ⟨body, output⟩ := List.head?_eq_some_iff.1 mark
    obtain ⟨words, split, whole⟩ := exists_splitWords_of_mem_tokens member tag output
    rw [output, Tag.read_output_eq] at read
    exact (Tag.not_isBrokenQuotation_of_readElements split whole).map _ cause read broken

theorem parse_quotations_of_loop_head :
    let source := "\x7b$=\"é$\x7d\\\"\"x$\x7d\x7b$for i \"a b\" 2$\x7d"
    let output : Token := ⟨.tag, "\x7b$=\"é$\x7d\\\"\"x$\x7d".toList, ⟨0, 14⟩⟩
    let fault : ParseError := ⟨.unterminatedText "\"a", ⟨14, 31⟩, 3, []⟩
    output ∈ (tokens 3 source).1 ∧ output.kind = .tag ∧
      output.body = '=' :: "\"é$\x7d\\\"\"x".toList ∧
      (∃ words, Tag.splitWords "\"é$\x7d\\\"\"x".toList = .ok words ∧
        ∀ word ∈ words, word.head? = some '"' → IsQuotation word) ∧
      Script.parse source 3 = .error fault ∧ IsBrokenQuotation fault.cause ∧
      ∃ token ∈ (tokens 3 source).1, token.kind = .tag ∧ token.span = fault.span ∧
        token.body.head? ≠ some '=' := by
  intro source output fault
  have member : output ∈ (tokens 3 source).1 := by
    have read : (tokens 3 source).1 =
        [output, ⟨.tag, "\x7b$for i \"a b\" 2$\x7d".toList, ⟨14, 31⟩⟩] := by cbv
    rw [read]
    exact List.mem_cons_self
  have body : output.body = '=' :: "\"é$\x7d\\\"\"x".toList := by cbv
  have failed : Script.parse source 3 = .error fault := by cbv
  have broken : IsBrokenQuotation fault.cause := ⟨_, .inl rfl⟩
  obtain ⟨tags, faults⟩ := parse_quotations source 3
  obtain ⟨words, split, whole⟩ := (tags output member rfl).2 _ body
  obtain ⟨token, inside, tag, span, -, noOutput⟩ := faults fault failed broken
  exact ⟨member, rfl, body, ⟨words, split, fun word mem quote => (whole word mem quote).1⟩, failed,
    broken, token, inside, tag, span, noOutput⟩

end Script

end Stencil
