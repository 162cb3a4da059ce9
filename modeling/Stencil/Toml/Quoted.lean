import Stencil.Number.Reader
import Stencil.Toml.Layout

set_option autoImplicit false

namespace Stencil.Toml

def isPlain (c : Char) : Bool :=
  isCommentCharacter c

def hexDigit? (c : Char) : Option Nat :=
  if c.isDigit then some (c.toNat - '0'.toNat)
  else if 'a' ≤ c && c ≤ 'f' then some (c.toNat - 'a'.toNat + 10)
  else if 'A' ≤ c && c ≤ 'F' then some (c.toNat - 'A'.toNat + 10)
  else none

def hexNumber? (digits : List Char) : Option Nat :=
  digits.foldlM (fun n c => (hexDigit? c).map (16 * n + ·)) 0

def hexCharacter (digits : List Char) : Except Fault Char :=
  match hexNumber? digits with
  | some n => if n.isValidChar then .ok (Char.ofNat n) else .error (.expected "a character number")
  | none => .error (.expected "hexadecimal digits")

def escaped? : Char → Option Char
  | 'b' => some '\x08'
  | 't' => some '\t'
  | 'n' => some '\n'
  | 'f' => some '\x0c'
  | 'r' => some '\r'
  | '"' => some '"'
  | '\\' => some '\\'
  | _ => none

def prepend (c : Char) (result : Except Fault (List Char × List Char)) :
    Except Fault (List Char × List Char) :=
  result.map fun (text, rest) => (c :: text, rest)

def readBasic : Step (List Char)
  | '"' :: rest => .ok ([], rest)
  | '\\' :: 'u' :: a :: b :: c :: d :: rest => do
    prepend (← hexCharacter [a, b, c, d]) (readBasic rest)
  | '\\' :: 'U' :: a :: b :: c :: d :: e :: f :: g :: h :: rest => do
    prepend (← hexCharacter [a, b, c, d, e, f, g, h]) (readBasic rest)
  | '\\' :: c :: rest =>
    match escaped? c with
    | some plain => prepend plain (readBasic rest)
    | none => .error (.expected "an escape")
  | c :: rest =>
    if isPlain c && c != '\\' then prepend c (readBasic rest) else .error (.expected "'\"'")
  | [] => .error (.expected "'\"'")

def readLongBasic (skipping : Bool) : Step (List Char)
  | '"' :: '"' :: '"' :: '"' :: '"' :: rest => .ok (['"', '"'], rest)
  | '"' :: '"' :: '"' :: '"' :: rest => .ok (['"'], rest)
  | '"' :: '"' :: '"' :: rest => .ok ([], rest)
  | '\n' :: rest =>
    if skipping then readLongBasic true rest else prepend '\n' (readLongBasic false rest)
  | '\r' :: '\n' :: rest =>
    if skipping then readLongBasic true rest else prepend '\n' (readLongBasic false rest)
  | '\\' :: 'u' :: a :: b :: c :: d :: rest => do
    prepend (← hexCharacter [a, b, c, d]) (readLongBasic false rest)
  | '\\' :: 'U' :: a :: b :: c :: d :: e :: f :: g :: h :: rest => do
    prepend (← hexCharacter [a, b, c, d, e, f, g, h]) (readLongBasic false rest)
  | '\\' :: c :: rest =>
    -- After a backslash at the end of a line, blanks and line ends are skipped.
    if (afterLineEnd? (skipGap (c :: rest))).isSome then readLongBasic true (c :: rest)
    else
      match escaped? c with
      | some plain => prepend plain (readLongBasic false rest)
      | none => .error (.expected "an escape")
  | c :: rest =>
    if skipping && isGap c then readLongBasic true rest
    else if isPlain c && c != '\\' then prepend c (readLongBasic false rest)
    else .error (.expected "'\"\"\"'")
  | [] => .error (.expected "'\"\"\"'")

def readLiteral : Step (List Char)
  | '\'' :: rest => .ok ([], rest)
  | c :: rest => if isPlain c then prepend c (readLiteral rest) else .error (.expected "\"'\"")
  | [] => .error (.expected "\"'\"")

def readLongLiteral : Step (List Char)
  | '\'' :: '\'' :: '\'' :: '\'' :: '\'' :: rest => .ok (['\'', '\''], rest)
  | '\'' :: '\'' :: '\'' :: '\'' :: rest => .ok (['\''], rest)
  | '\'' :: '\'' :: '\'' :: rest => .ok ([], rest)
  | '\n' :: rest => prepend '\n' (readLongLiteral rest)
  | '\r' :: '\n' :: rest => prepend '\n' (readLongLiteral rest)
  | c :: rest =>
    if isPlain c then prepend c (readLongLiteral rest) else .error (.expected "\"'''\"")
  | [] => .error (.expected "\"'''\"")

def dropLineEnd (text : List Char) : List Char :=
  (afterLineEnd? text).getD text

def readString : Step (List Char)
  | '"' :: '"' :: '"' :: rest => readLongBasic false (dropLineEnd rest)
  | '"' :: rest => readBasic rest
  | '\'' :: '\'' :: '\'' :: rest => readLongLiteral (dropLineEnd rest)
  | '\'' :: rest => readLiteral rest
  | _ => .error (.expected "a string")

def isBareKeyCharacter (c : Char) : Bool :=
  c.isAlphanum || c == '-' || c == '_'

def readKeyPart : Step String
  | '"' :: rest => (readBasic rest).map fun (key, rest) => (String.ofList key, rest)
  | '\'' :: rest => (readLiteral rest).map fun (key, rest) => (String.ofList key, rest)
  | text =>
    let key := text.takeWhile isBareKeyCharacter
    if key.isEmpty then .error (.expected "a key")
    else .ok (String.ofList key, text.dropWhile isBareKeyCharacter)

-- The longest key, in parts, and how deep values may be nested.
def depthLimit : Nat := 79

def readKeyWithin : Nat → Step (List String)
  | 0, _ => .error .tooDeep
  | limit + 1, text => do
    let (part, rest) ← readKeyPart (skipGap text)
    match skipGap rest with
    | '.' :: rest =>
      let (parts, rest) ← readKeyWithin limit rest
      return (part :: parts, rest)
    | rest => return ([part], rest)

def readKey : Step (List String) :=
  readKeyWithin depthLimit

end Stencil.Toml
