import Stencil.Text.Hidden

set_option autoImplicit false

namespace Stencil.Text

def numbered (c : Char) : List Char :=
  ['\\', 'u', '\x7b'] ++ Nat.toDigits 16 c.toNat ++ ['\x7d']

def visibleCharacter (c : Char) : List Char :=
  match c with
  | '\x00' => ['\\', '0']
  | '\t' => ['\\', 't']
  | '\r' => ['\\', 'r']
  | '\n' => ['\\', 'n']
  | '"' => ['\\', '"']
  | '\\' => ['\\', '\\']
  | _ => if isHidden c then numbered c else [c]

def visible (text : String) : List Char :=
  '"' :: text.toList.flatMap visibleCharacter ++ ['"']

end Stencil.Text
