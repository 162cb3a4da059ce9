import Stencil.Number.Layout
import Stencil.Text.Quoted

set_option autoImplicit false

namespace Stencil

inductive Operator
  | add
  | subtract
  | multiply
  | divide
  deriving DecidableEq, Repr

namespace Operator

def symbol : Operator → Char
  | add => '+'
  | subtract => '-'
  | multiply => '*'
  | divide => '/'

def ofSymbol? : Char → Option Operator
  | '+' => some add
  | '-' => some subtract
  | '*' => some multiply
  | '/' => some divide
  | _ => none

def name : Operator → String
  | add => "Add"
  | subtract => "Subtract"
  | multiply => "Multiply"
  | divide => "Divide"

theorem ofSymbol?_symbol (op : Operator) : ofSymbol? op.symbol = some op := by
  cases op <;> rfl

end Operator

inductive Element
  | var (name : String)
  | call (name : String)
  | operator (op : Operator)
  | text (content : String)
  | integer (n : Int64)
  | double (x : Float)
  deriving DecidableEq

namespace Element

def kind : Element → String
  | var _ => "variable"
  | call _ => "function reference"
  | operator _ => "operator"
  | text _ => "string literal"
  | integer _ => "integer constant"
  | double _ => "double constant"

def isLoopOperand : Element → Bool
  | call _ | operator _ => false
  | _ => true

def source : Element → List Char
  | var name => name.toList
  | call name => '@' :: name.toList
  | operator op => [op.symbol]
  | text content => Text.Quoted.encode content.toList
  | integer n => Number.integerText n.toInt
  | double x => Number.doubleText .constant x

end Element

end Stencil
