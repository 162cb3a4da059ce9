import Stencil.Toml.Value

set_option autoImplicit false

namespace Stencil.Toml

def isGap (c : Char) : Bool :=
  c == ' ' || c == '\t'

def skipGap (text : List Char) : List Char :=
  text.dropWhile isGap

def isCommentCharacter (c : Char) : Bool :=
  c == '\t' || (' ' ≤ c && c != '\x7f')

def afterLineEnd? : List Char → Option (List Char)
  | '\n' :: rest => some rest
  | '\r' :: '\n' :: rest => some rest
  | _ => none

def skipLines (inComment : Bool) : List Char → List Char
  | [] => []
  | '\n' :: rest => skipLines false rest
  | '\r' :: '\n' :: rest => skipLines false rest
  | c :: rest =>
    if inComment then
      if isCommentCharacter c then skipLines true rest else c :: rest
    else if isGap c then skipLines false rest
    else if c = '#' then skipLines true rest
    else c :: rest

def finishLine (text : List Char) : Except Fault (List Char) :=
  let rest := skipGap text
  let rest := if rest.head? = some '#' then rest.tail.dropWhile isCommentCharacter else rest
  if rest.isEmpty then .ok []
  else (afterLineEnd? rest).elim (.error (.expected "the end of the line")) .ok

end Stencil.Toml
