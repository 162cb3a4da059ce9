import Stencil.Number.Ratio

set_option autoImplicit false

namespace Stencil.Number.Binary64

-- Read as natural numbers, the 63 bits below the sign order the magnitudes from zero to infinity.
def exponentWeight : Nat := 0x10000000000000

def signWeight : Nat := 0x8000000000000000

def infinityBits : Nat := 0x7ff * exponentWeight

def unit (bits : Nat) : Int :=
  ((max (bits / exponentWeight) 1 : Nat) : Int) - 1075

def mantissa (bits : Nat) : Nat :=
  if bits / exponentWeight = 0 then bits else exponentWeight + bits % exponentWeight

def magnitude (bits : Nat) : Ratio :=
  Ratio.scaleDown ⟨mantissa bits, 1⟩ 2 (-unit bits)

/-- The bits of the magnitude nearest to a ratio, ties going to the even mantissa; infinity where
every finite magnitude is too small. -/
def nearestBits (r : Ratio) : Nat :=
  if r.num = 0 then 0
  else
    let unit := max (r.log2 - 52) (-1074)
    min infinityBits ((unit + 1074).toNat * exponentWeight + (r.scaleDown 2 unit).nearestEven)

def magnitudeBits (value : Float) : Nat :=
  value.toBits.toNat % signWeight

def isNegative (value : Float) : Bool :=
  signWeight ≤ value.toBits.toNat

def isFinite (value : Float) : Bool :=
  magnitudeBits value < infinityBits

def ofMagnitude (negative : Bool) (bits : Nat) : Float :=
  Float.ofBits (UInt64.ofNat (if negative then signWeight + bits else bits))

end Stencil.Number.Binary64
