import Stencil.Number.Layout

set_option autoImplicit false

namespace Stencil

structure Span where
  start : Nat
  stop : Nat
  deriving DecidableEq, Repr

inductive LoopPart
  | start
  | stop
  | step
  deriving DecidableEq, Repr

def LoopPart.name : LoopPart → String
  | start => "start"
  | stop => "end"
  | step => "step"

namespace ParseError

inductive Cause
  -- A backslash in text before a character other than a backslash or a brace.
  | malformedEscape (c : Char)
  | danglingEscape
  | unterminatedTag
  | emptyTag
  | unknownKeyword (keyword : String)
  | operandCount (count : Nat)
  | loopVariable (kind word : String)
  | loopOperand (part : LoopPart) (kind word : String)
  | unterminatedLoop (count documentEnd : Nat)
  | unmatchedEnd
  | functionName (word : String)
  | number (word : String)
  | unrecognized (word : String)
  | unterminatedText (word : String)
  | textEscape (c : Char)
  | bareQuote (word : String)
  deriving DecidableEq, Repr

namespace Cause

def message : Cause → String
  | malformedEscape c => "malformed escape sequence '\\" ++ c.toString ++ "' in text"
  | danglingEscape => "malformed escape sequence: '\\' at end of document"
  | unterminatedTag => "unterminated tag: missing '$\x7d'"
  | emptyTag => "empty tag"
  | unknownKeyword keyword => "unrecognized tag keyword '" ++ keyword ++ "'"
  | operandCount count => "FOR tag takes 3 or 4 operands, found " ++ toString count
  | loopVariable kind word =>
    "FOR loop variable must be a variable, found " ++ kind ++ " '" ++ word ++ "'"
  | loopOperand part kind word =>
    "FOR " ++ part.name ++ " expression must be a variable, number or string, found " ++ kind ++
      " '" ++ word ++ "'"
  | unterminatedLoop count _ =>
    "unterminated loop: " ++ toString count ++ " FOR tag(s) without matching END"
  | unmatchedEnd => "unmatched END: no open FOR loop to close"
  | functionName word => "invalid function name '" ++ word ++ "'"
  | number word => "invalid numeric literal '" ++ word ++ "'"
  | unrecognized word => "unrecognized token '" ++ word ++ "'"
  | unterminatedText word => "unterminated string literal " ++ word
  | textEscape c => "invalid escape '\\" ++ c.toString ++ "' in string literal"
  | bareQuote word => "unescaped quote inside string literal " ++ word

def note? : Cause → Option String
  | malformedEscape _ => some "only '\\\\' and '\\\x7b' are valid escapes outside of tags"
  | emptyTag | unknownKeyword _ =>
    some "tags are 'FOR', 'END', or an output tag starting with '='"
  | operandCount _ => some "expected 'FOR variable start end [step]'"
  | unterminatedLoop _ documentEnd => some ("document ends at byte " ++ toString documentEnd)
  | number _ => some "numbers must fit in a 64-bit integer or a finite double"
  | _ => none

end Cause

end ParseError

structure ParseError where
  cause : ParseError.Cause
  span : Span
  fileId : Nat
  addedNotes : List String := []
  deriving DecidableEq, Repr

namespace ParseError

def message (e : ParseError) : String :=
  e.cause.message

def notes (e : ParseError) : List String :=
  e.cause.note?.toList ++ e.addedNotes

def withNote (e : ParseError) (note : String) : ParseError :=
  { e with addedNotes := e.addedNotes ++ [note] }

def display (e : ParseError) : String :=
  "parse error: " ++ e.message

end ParseError

end Stencil
