import Stencil.Document
import Stencil.Element.Word
import Stencil.Token

set_option autoImplicit false

namespace Stencil

open ParseError (Cause)

inductive Item
  | text (content : String)
  | enter (head : LoopHead)
  | leave
  | output (elements : List Element)
  deriving DecidableEq

namespace Tag

inductive WordScan
  | outside
  | quoted
  | escaped
  deriving DecidableEq, Repr

def flush (pending : List Char) (later : List (List Char)) : List (List Char) :=
  if pending.isEmpty then later else pending.reverse :: later

def splitWordsFrom : WordScan → List Char → List Char → Except Cause (List (List Char))
  | .outside, pending, [] => .ok (flush pending [])
  | .quoted, pending, [] | .escaped, pending, [] =>
    .error (.unterminatedText (String.ofList pending.reverse))
  | .outside, pending, c :: rest =>
    -- A quote or an `@` begins a word, `+` and `*` are words, and blanks only separate.
    if c = '"' then (splitWordsFrom .quoted ['"'] rest).map (flush pending)
    else if c = '@' then (splitWordsFrom .outside ['@'] rest).map (flush pending)
    else if c = '+' ∨ c = '*' then
      (splitWordsFrom .outside [] rest).map fun later => flush pending ([c] :: later)
    else if Text.isBlank c then (splitWordsFrom .outside [] rest).map (flush pending)
    else splitWordsFrom .outside (c :: pending) rest
  | .quoted, pending, c :: rest =>
    if c = '\\' then splitWordsFrom .escaped (c :: pending) rest
    else if c = '"' then
      (splitWordsFrom .outside [] rest).map fun later => (c :: pending).reverse :: later
    else splitWordsFrom .quoted (c :: pending) rest
  | .escaped, pending, c :: rest => splitWordsFrom .quoted (c :: pending) rest

def splitWords (body : List Char) : Except Cause (List (List Char)) :=
  splitWordsFrom .outside [] body

def readElements (body : List Char) : Except Cause (List Element) :=
  (splitWords body).bind fun words => words.mapM Element.ofWord

def afterKeyword? (keyword body : List Char) : Option (List Char) :=
  let rest := body.drop keyword.length
  if (body.take keyword.length).map Char.toUpper = keyword && rest.head?.all Text.isBlank then
    some rest
  else none

def readLoopOperand (part : LoopPart) (word : List Char) : Except Cause Element := do
  let element ← Element.ofWord word
  if element.isLoopOperand then return element
  throw (.loopOperand part element.kind (String.ofList word))

def readLoopVariable (word : List Char) : Except Cause String := do
  match ← Element.ofWord word with
  | .var name => return name
  | other => throw (.loopVariable other.kind (String.ofList word))

def readLoopHead (body : List Char) : Except Cause LoopHead :=
  match Text.words body with
  | [name, start, stop] => do
    return ⟨← readLoopVariable name, ← readLoopOperand .start start,
      ← readLoopOperand .stop stop, none⟩
  | [name, start, stop, step] => do
    return ⟨← readLoopVariable name, ← readLoopOperand .start start,
      ← readLoopOperand .stop stop, some (← readLoopOperand .step step)⟩
  | words => .error (.operandCount words.length)

def read (body : List Char) : Except Cause Item :=
  match afterKeyword? "FOR".toList body with
  | some rest => (readLoopHead rest).map .enter
  | none =>
    if body.map Char.toUpper = "END".toList then .ok .leave
    else
      match body with
      | '=' :: rest => (readElements rest).map .output
      | _ =>
        match Text.words body with
        | [] => .error .emptyTag
        | keyword :: _ => .error (.unknownKeyword (String.ofList keyword))

end Tag

def Item.ofToken (fileId : Nat) (token : Token) : Except ParseError Item :=
  match token.kind with
  | .tag => (Tag.read token.body).mapError fun cause => ⟨cause, token.span, fileId, []⟩
  | _ => .ok (.text (String.ofList token.text))

end Stencil
