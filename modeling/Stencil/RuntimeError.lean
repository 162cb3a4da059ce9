import Stencil.Builtin.Name
import Stencil.Value

set_option autoImplicit false

namespace Stencil

inductive ResponseError
  | headerAlreadyGenerated
  | unsupportedEncoding (label : String)
  | sinkUnavailable
  deriving DecidableEq, Repr

def ResponseError.message : ResponseError → String
  | headerAlreadyGenerated => "header was already generated"
  | unsupportedEncoding label => "unsupported encoding '" ++ label ++ "'"
  | sinkUnavailable => "sink unavailable"

inductive Consumer
  | operator (op : Operator)
  | builtin (b : Builtin)
  deriving DecidableEq, Repr

def Consumer.name : Consumer → String
  | operator op => "operator '" ++ op.symbol.toString ++ "'"
  | builtin b => "@" ++ b.name

def Operator.noun : Operator → String
  | .add => "addition"
  | .subtract => "subtraction"
  | .multiply => "multiplication"
  | .divide => "division"

inductive RuntimeError
  | cannotParse (content : String)
  | unsupportedValue (kind : String)
  | divisionByZero
  | overflow (op : Operator)
  | unordered (left right : Value)
  | noSuchEntry (name : String)
  | unknownFunction (name : String)
  | stackUnderflow (consumer : Consumer)
  | typeError (function : Builtin) (found : Value)
  | invalidFormat (pattern : String)
  | response (e : ResponseError)
  deriving DecidableEq

def RuntimeError.message : RuntimeError → String
  | cannotParse content => "cannot parse value '" ++ content ++ "' as a number"
  | unsupportedValue kind => "unsupported value kind: " ++ kind
  | divisionByZero => "division by zero"
  | overflow op => "integer overflow in " ++ op.noun
  | unordered left right => "cannot order " ++ left.display ++ " against " ++ right.display
  | noSuchEntry name => "no such entry: variable '" ++ name ++ "' is not defined"
  | unknownFunction name => "unknown function '@" ++ name ++ "'"
  | stackUnderflow consumer => "evaluation stack underflow in " ++ consumer.name
  | typeError function found =>
    "type error in @" ++ function.name ++ ": expected Text, got " ++ found.typeName
  | invalidFormat pattern => "invalid decimal format pattern '" ++ pattern ++ "'"
  | response .sinkUnavailable => "I/O error: " ++ ResponseError.sinkUnavailable.message
  | response e => e.message

end Stencil
