set_option autoImplicit false

namespace Stencil.Text.Quoted

inductive Fault
  | unterminated
  | badEscape (c : Char)
  | bareQuote
  deriving DecidableEq, Repr

def unescape? : Char → Option Char
  | '"' => some '"'
  | '\\' => some '\\'
  | 'n' => some '\n'
  | 'r' => some '\r'
  | 't' => some '\t'
  | _ => none

def encodeCharacter : Char → List Char
  | '"' => ['\\', '"']
  | '\\' => ['\\', '\\']
  | '\n' => ['\\', 'n']
  | '\r' => ['\\', 'r']
  | '\t' => ['\\', 't']
  | c => [c]

def encode (text : List Char) : List Char :=
  '"' :: text.flatMap encodeCharacter ++ ['"']

def resolve : List Char → Except Fault (List Char)
  | [] => .ok []
  | ['\\'] => .error .unterminated
  | '\\' :: c :: rest =>
    match unescape? c with
    | some plain => (resolve rest).map (plain :: ·)
    | none => .error (.badEscape c)
  | '"' :: _ => .error .bareQuote
  | c :: rest => (resolve rest).map (c :: ·)

def decode : List Char → Except Fault (List Char)
  | '"' :: rest =>
    if rest.getLast? = some '"' then resolve rest.dropLast else .error .unterminated
  | _ => .error .unterminated

end Stencil.Text.Quoted
