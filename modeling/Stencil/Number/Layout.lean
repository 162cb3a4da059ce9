import Stencil.Number.Decimal

set_option autoImplicit false

namespace Stencil.Number

def natText (n : Nat) : List Char :=
  Nat.toDigits 10 n

def integerText (n : Int) : List Char :=
  if n < 0 then '-' :: natText n.natAbs else natText n.natAbs

structure DoubleStyle where
  leastPositional : Int
  endOfPositional : Int
  exponentMark : Char
  fullMantissa : Bool
  infinity : List Char

namespace DoubleStyle

def constant : DoubleStyle :=
  ⟨-4, 16, 'e', false, "inf".toList⟩

def value : DoubleStyle :=
  ⟨-3, 7, 'E', true, "Infinity".toList⟩

end DoubleStyle

def positional (digits : List Char) (point : Int) : List Char :=
  if point ≤ 0 then
    "0.".toList ++ List.replicate (-point).toNat '0' ++ digits
  else if point < digits.length then
    digits.take point.toNat ++ '.' :: digits.drop point.toNat
  else
    digits ++ List.replicate (point.toNat - digits.length) '0' ++ ".0".toList

def scientific (style : DoubleStyle) (digits : List Char) (point : Int) : List Char :=
  let fraction := match digits.tail with
    | [] => if style.fullMantissa then ".0".toList else []
    | rest => '.' :: rest
  digits.take 1 ++ fraction ++ style.exponentMark :: integerText (point - 1)

def decimalText (style : DoubleStyle) (d : Decimal) : List Char :=
  let leading := d.point - 1
  if d.coefficient = 0 ∨ style.leastPositional ≤ leading ∧ leading < style.endOfPositional then
    positional d.digits d.point
  else
    scientific style d.digits d.point

def doubleText (style : DoubleStyle) (x : Float) : List Char :=
  let sign := if Binary64.isNegative x then ['-'] else []
  let bits := Binary64.magnitudeBits x
  if bits < Binary64.infinityBits then sign ++ decimalText style (Decimal.shortest bits)
  else if bits = Binary64.infinityBits then sign ++ style.infinity
  else "NaN".toList

end Stencil.Number
