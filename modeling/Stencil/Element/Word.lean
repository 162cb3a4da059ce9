import Stencil.Element
import Stencil.Number.Reader
import Stencil.ParseError
import Stencil.Text.Identifier

set_option autoImplicit false

namespace Stencil.Element

open ParseError (Cause)

def looksNumeric : List Char → Bool
  | '-' :: c :: _ => c.isDigit
  | c :: _ => c.isDigit
  | [] => false

-- The number that a word spells: a finite double if it looks fractional, and an integer otherwise.
def ofNumber? (word : List Char) : Option Element :=
  if Number.looksFractional word then
    ((Number.readFloat? word).filter Number.Binary64.isFinite).map double
  else
    (Number.readInt64? word).map integer

def ofQuoted (word : List Char) : Except Cause Element :=
  match Text.Quoted.decode word with
  | .ok content => .ok (text (String.ofList content))
  | .error .unterminated => .error (.unterminatedText (String.ofList word))
  | .error (.badEscape c) => .error (.textEscape c)
  | .error .bareQuote => .error (.bareQuote (String.ofList word))

def ofCall (word : List Char) : Except Cause Element :=
  if Text.isIdentifier word.tail then .ok (call (String.ofList word.tail))
  else .error (.functionName (String.ofList word))

def ofOperator? : List Char → Option Element
  | [c] => (Operator.ofSymbol? c).map operator
  | _ => none

def ofWord (word : List Char) : Except Cause Element :=
  if word.head? = some '"' then ofQuoted word
  else if word.head? = some '@' then ofCall word
  else
    match ofOperator? word with
    | some element => .ok element
    | none =>
      if looksNumeric word then
        match ofNumber? word with
        | some element => .ok element
        | none => .error (.number (String.ofList word))
      else if Text.isIdentifier word then .ok (var (String.ofList word))
      else .error (.unrecognized (String.ofList word))

def ofWordAt (word : List Char) (span : Span) (fileId : Nat) : Except ParseError Element :=
  (ofWord word).mapError fun cause => ⟨cause, span, fileId, []⟩

end Stencil.Element
