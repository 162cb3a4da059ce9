import Stencil.Number.Binary64

set_option autoImplicit false

namespace Stencil.Number

structure Decimal where
  coefficient : Nat
  exponent : Int
  deriving DecidableEq, Repr

namespace Decimal

def digits (d : Decimal) : List Char :=
  Nat.toDigits 10 d.coefficient

def point (d : Decimal) : Int :=
  d.digits.length + d.exponent

def toRatio (d : Decimal) : Ratio :=
  Ratio.scaleDown ⟨d.coefficient, 1⟩ 10 (-d.exponent)

def toBits (d : Decimal) : Nat :=
  if d.coefficient = 0 then 0
  -- Far outside the range of finite magnitudes the place of the point settles it, so that no power
  -- of ten has to be found for it.
  else if 400 < d.point then Binary64.infinityBits
  else if d.point < -400 then 0
  else Binary64.nearestBits d.toRatio

def toFloat (d : Decimal) (negative : Bool) : Float :=
  Binary64.ofMagnitude negative d.toBits

def normalize (d : Decimal) : Decimal :=
  if h : d.coefficient ≠ 0 ∧ d.coefficient % 10 = 0 then
    normalize ⟨d.coefficient / 10, d.exponent + 1⟩
  else d
termination_by d.coefficient
decreasing_by exact Nat.div_lt_self (Nat.pos_of_ne_zero h.1) (by decide)

def neighbours (value : Ratio) (exponent : Int) : Decimal × Decimal :=
  let below := (value.scaleDown 10 exponent).floor
  (⟨below, exponent⟩, ⟨below + 1, exponent⟩)

/-- The decimal with last place `exponent` that reads back as the magnitude `bits`; of two such
neighbours the nearer one, and the upper one of two equally near. -/
def readingBackAt (bits : Nat) (exponent : Int) : Option Decimal :=
  let value := (Binary64.magnitude bits).scaleDown 10 exponent
  let (below, above) := neighbours (Binary64.magnitude bits) exponent
  match decide (below.toBits = bits), decide (above.toBits = bits) with
  | true, true => if 2 * (value.num % value.den) < value.den then some below else some above
  | true, false => some below
  | false, true => some above
  | false, false => none

def exact (bits : Nat) : Decimal :=
  let unit := Binary64.unit bits
  if 0 ≤ unit then ⟨Binary64.mantissa bits * Nat.pow 2 unit.toNat, 0⟩
  else ⟨Binary64.mantissa bits * Nat.pow 5 (-unit).toNat, unit⟩

/-- The decimal with the fewest digits that reads back as a finite magnitude, and the nearest of
those. -/
def shortest (bits : Nat) : Decimal :=
  if bits = 0 then ⟨0, 0⟩
  else
    let leading := (Binary64.magnitude bits).log10
    -- Seventeen digits are always enough.
    let found := (List.range 17).findSome? fun n : Nat => readingBackAt bits (leading - (n : Int))
    (found.getD (exact bits)).normalize

end Decimal

end Stencil.Number
