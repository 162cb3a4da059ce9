import Stencil.Text.Alphabetic
import Stencil.Text.Numeric

set_option autoImplicit false

namespace Stencil.Text

def isNameCharacter (c : Char) : Bool :=
  isAlphabetic c || isNumeric c || c == '_'

def isIdentifier : List Char → Bool
  | [] => false
  | c :: rest => isAlphabetic c && rest.all isNameCharacter

end Stencil.Text
