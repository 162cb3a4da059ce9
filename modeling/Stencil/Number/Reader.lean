import Stencil.Number.Decimal

set_option autoImplicit false

namespace Stencil.Number

def digitsValue (digits : List Char) : Nat :=
  Nat.ofDigitChars 10 digits 0

def splitSign : List Char → Bool × List Char
  | '-' :: rest => (true, rest)
  | '+' :: rest => (false, rest)
  | text => (false, text)

def readNat? (text : List Char) : Option Nat :=
  if text.isEmpty || !text.all Char.isDigit then none else some (digitsValue text)

def readInt? (text : List Char) : Option Int :=
  let (negative, digits) := splitSign text
  (readNat? digits).map fun n => if negative then -(n : Int) else n

def readInt64? (text : List Char) : Option Int64 :=
  (readInt? text).bind fun n =>
    if Int64.minValue.toInt ≤ n ∧ n ≤ Int64.maxValue.toInt then some (Int64.ofInt n) else none

def readExponent? : List Char → Option Int
  | [] => some 0
  | mark :: rest => if mark = 'e' ∨ mark = 'E' then readInt? rest else none

def readDecimal? (text : List Char) : Option Decimal :=
  let whole := text.takeWhile Char.isDigit
  let (fraction, rest) := match text.dropWhile Char.isDigit with
    | '.' :: rest => (rest.takeWhile Char.isDigit, rest.dropWhile Char.isDigit)
    | rest => ([], rest)
  if whole.isEmpty && fraction.isEmpty then none
  else
    (readExponent? rest).map fun exponent =>
      ⟨digitsValue (whole ++ fraction), exponent - fraction.length⟩

def readFloat? (text : List Char) : Option Float :=
  let (negative, rest) := splitSign text
  (readDecimal? rest).map fun d => d.toFloat negative

-- Whether a text is meant as a double rather than an integer: it holds a point or an exponent mark.
def looksFractional (text : List Char) : Bool :=
  text.any fun c => c == '.' || c == 'e' || c == 'E'

end Stencil.Number
