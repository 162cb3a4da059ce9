set_option autoImplicit false

namespace Stencil.Number

/-- The integer nearest to `num / den`; of two equally near ones the even one. -/
def divNearestEven (num den : Nat) : Nat :=
  let quotient := num / den
  let twice := 2 * (num % den)
  if twice < den then quotient
  else if den < twice then quotient + 1
  else quotient + quotient % 2

-- A ratio of two natural numbers. The denominator of every ratio built here is positive.
structure Ratio where
  num : Nat
  den : Nat
  deriving DecidableEq, Repr

namespace Ratio

def scaleDown (r : Ratio) (base : Nat) (exponent : Int) : Ratio :=
  if 0 ≤ exponent then ⟨r.num, r.den * Nat.pow base exponent.toNat⟩
  else ⟨r.num * Nat.pow base (-exponent).toNat, r.den⟩

def floor (r : Ratio) : Nat :=
  r.num / r.den

def nearestEven (r : Ratio) : Nat :=
  divNearestEven r.num r.den

-- Corrects a guess that is the exponent of the leading digit or one above it.
def leadingExponentFrom (r : Ratio) (base : Nat) (guess : Int) : Int :=
  if (r.scaleDown base guess).floor = 0 then guess - 1 else guess

def log2 (r : Ratio) : Int :=
  r.leadingExponentFrom 2 ((r.num.log2 : Int) - r.den.log2)

def log10 (r : Ratio) : Int :=
  r.leadingExponentFrom 10
    (((Nat.toDigits 10 r.num).length : Int) - (Nat.toDigits 10 r.den).length)

end Ratio

theorem divNearestEven_one (num : Nat) : divNearestEven num 1 = num := by
  simp [divNearestEven, Nat.mod_one]

theorem divNearestEven_mul (num den factor : Nat) (positive : 0 < factor) :
    divNearestEven (num * factor) (den * factor) = divNearestEven num den := by
  have quotient : num * factor / (den * factor) = num / den :=
    Nat.mul_div_mul_right num den positive
  have remainder : num * factor % (den * factor) = num % den * factor :=
    Nat.mul_mod_mul_right factor num den
  simp only [divNearestEven, quotient, remainder, ← Nat.mul_assoc, Nat.mul_lt_mul_right positive]

end Stencil.Number
