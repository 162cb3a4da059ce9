import Stencil.Number.Layout

set_option autoImplicit false

namespace Stencil

structure DecimalPattern where
  before : List Char
  after : List Char
  minInteger : Nat
  -- Digits between two commas.
  grouping : Option Nat
  minFraction : Nat
  maxFraction : Nat
  deriving DecidableEq, Repr

namespace DecimalPattern

def isNumberSymbol (c : Char) : Bool :=
  c == '#' || c == '0' || c == ',' || c == '.'

def splitPoint (symbols : List Char) : List Char × List Char :=
  (symbols.takeWhile (· != '.'), (symbols.dropWhile (· != '.')).tail)

-- Whether the symbols may stand before the point: no optional digit after a required one.
def isIntegerPart (symbols : List Char) : Bool :=
  !(symbols.dropWhile fun c => c == '#' || c == ',').contains '#'

-- Whether the symbols may stand after the point: required digits, then optional ones.
def isFractionPart (symbols : List Char) : Bool :=
  !symbols.contains '.' && !symbols.contains ',' &&
    !(symbols.dropWhile (· == '0')).contains '0'

def groupingOf (symbols : List Char) : Option Nat :=
  if symbols.contains ',' then
    let size := (symbols.reverse.takeWhile (· != ',')).length
    if 0 < size then some size else none
  else none

def parse? (pattern : List Char) : Option DecimalPattern :=
  -- What follows a semicolon is not looked at.
  let positive := pattern.takeWhile (· != ';')
  let before := positive.takeWhile fun c => !isNumberSymbol c
  let rest := positive.dropWhile fun c => !isNumberSymbol c
  let symbols := rest.takeWhile isNumberSymbol
  let (integer, fraction) := splitPoint symbols
  if !symbols.isEmpty && isIntegerPart integer && isFractionPart fraction then
    some
      { before, after := rest.dropWhile isNumberSymbol
        minInteger := integer.count '0'
        grouping := groupingOf integer
        minFraction := fraction.count '0'
        maxFraction := fraction.length }
  else none

/-- Puts a comma before every digit that has a positive multiple of `size` digits from itself to
the end, the first digit excepted. -/
def group (size : Nat) : List Char → List Char
  | [] => []
  | [c] => [c]
  | c :: rest =>
    if rest.length % size = 0 then c :: ',' :: group size rest else c :: group size rest

def padLeft (length : Nat) (digits : List Char) : List Char :=
  List.replicate (length - digits.length) '0' ++ digits

def trimZeros (length : Nat) (digits : List Char) : List Char :=
  let zeros := (digits.reverse.takeWhile (· == '0')).length
  digits.take (max length (digits.length - zeros))

def numberText (pattern : DecimalPattern) (units : Nat) : List Char :=
  let scale := Nat.pow 10 pattern.maxFraction
  let whole := units / scale
  let part := units % scale
  let fraction :=
    if pattern.maxFraction = 0 then []
    else trimZeros pattern.minFraction (padLeft pattern.maxFraction (Number.natText part))
  let integer := padLeft pattern.minInteger (if whole = 0 then [] else Number.natText whole)
  let integer := if integer.isEmpty && fraction.isEmpty then ['0'] else integer
  let integer := pattern.grouping.elim integer fun size => group size integer
  if fraction.isEmpty then integer else integer ++ '.' :: fraction

/-- The magnitude of a finite double in units of the last place, rounded to the nearest; of two
equally near ones to the even one. -/
def units (pattern : DecimalPattern) (bits : Nat) : Nat :=
  ((Number.Binary64.magnitude bits).scaleDown 10 (-(pattern.maxFraction : Int))).nearestEven

def format (pattern : DecimalPattern) (x : Float) : List Char :=
  let bits := Number.Binary64.magnitudeBits x
  let number :=
    if bits < Number.Binary64.infinityBits then pattern.numberText (pattern.units bits)
    else if bits = Number.Binary64.infinityBits then ['∞']
    else "NaN".toList
  let sign := if x < 0 then ['-'] else []
  sign ++ pattern.before ++ number ++ pattern.after

end DecimalPattern

end Stencil
