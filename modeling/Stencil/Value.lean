import Stencil.Element

set_option autoImplicit false

namespace Stencil

inductive Value
  | integer (n : Int64)
  | double (x : Float)
  | text (content : String)
  | absent
  deriving DecidableEq

namespace Value

def typeName : Value → String
  | integer _ => "Integer"
  | double _ => "Double"
  | text _ => "Text"
  | absent => "Absent"

def display : Value → String
  | integer n => String.ofList (Number.integerText n.toInt)
  | double x => String.ofList (Number.doubleText .value x)
  | text content => content
  | absent => ""

def ofLiteral? : Element → Option Value
  | .integer n => some (integer n)
  | .double x => some (double x)
  | .text content => some (text content)
  | .var _ | .call _ | .operator _ => none

/-- Equality as numbers compare: zeros of either sign are equal, and a NaN differs from itself.
Values of two types are never equal. -/
def same : Value → Value → Bool
  | integer a, integer b => a == b
  | double a, double b => a == b
  | text a, text b => a == b
  | absent, absent => true
  | _, _ => false

end Value

end Stencil
