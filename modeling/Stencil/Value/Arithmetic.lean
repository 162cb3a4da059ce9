import Stencil.Number.Reader
import Stencil.RuntimeError

set_option autoImplicit false

namespace Stencil.Value

/-- The number that a value counts as; a missing value counts as zero. -/
def coerce : Value → Except RuntimeError Value
  | absent => .ok (integer 0)
  | text content =>
    let number :=
      if Number.looksFractional content.toList then
        (Number.readFloat? content.toList).map double
      else (Number.readInt64? content.toList).map integer
    number.elim (.error (.cannotParse content)) .ok
  | value => .ok value

def promote : Value → Except RuntimeError Float
  | integer n => .ok (Float.ofInt n.toInt)
  | double x => .ok x
  | other => .error (.unsupportedValue other.typeName)

def toFloat (value : Value) : Except RuntimeError Float :=
  value.coerce.bind promote

/-- The result of an operation on integers of any size; quotients are cut toward zero. -/
def exactResult (op : Operator) (a b : Int) : Int :=
  match op with
  | .add => a + b
  | .subtract => a - b
  | .multiply => a * b
  | .divide => a.tdiv b

def integerResult (op : Operator) (a b : Int64) : Except RuntimeError Value :=
  if op = .divide ∧ b = 0 then .error .divisionByZero
  else
    let result := exactResult op a.toInt b.toInt
    if Int64.minValue.toInt ≤ result ∧ result ≤ Int64.maxValue.toInt then
      .ok (integer (Int64.ofInt result))
    else .error (.overflow op)

def doubleResult (op : Operator) (a b : Float) : Except RuntimeError Value :=
  match op with
  | .add => .ok (double (a + b))
  | .subtract => .ok (double (a - b))
  | .multiply => .ok (double (a * b))
  | .divide => if b == 0 then .error .divisionByZero else .ok (double (a / b))

def apply (op : Operator) (left right : Value) : Except RuntimeError Value := do
  let a ← left.coerce
  let b ← right.coerce
  match a, b with
  | integer a, integer b => integerResult op a b
  | a, b => doubleResult op (← a.promote) (← b.promote)

def add : Value → Value → Except RuntimeError Value :=
  apply .add

def compare (left right : Value) : Except RuntimeError Ordering := do
  let a ← left.coerce
  let b ← right.coerce
  match a, b with
  | integer a, integer b => return Ord.compare a.toInt b.toInt
  | a, b =>
    -- The sign of the difference decides, and a difference without a sign is an error.
    let difference := (← a.promote) - (← b.promote)
    if difference < 0 then return .lt
    else if difference == 0 then return .eq
    else if difference > 0 then return .gt
    else throw (.unordered a b)

end Stencil.Value
