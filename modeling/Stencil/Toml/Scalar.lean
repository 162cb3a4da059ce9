import Stencil.Toml.Quoted

set_option autoImplicit false

namespace Stencil.Toml

-- Digits after the first one; a single underscore may stand between two digits.
def moreDigits (isDigit : Char → Bool) : List Char → List Char × List Char
  | '_' :: c :: rest =>
    if isDigit c then
      let (digits, rest) := moreDigits isDigit rest
      (c :: digits, rest)
    else ([], '_' :: c :: rest)
  | c :: rest =>
    if isDigit c then
      let (digits, rest) := moreDigits isDigit rest
      (c :: digits, rest)
    else ([], c :: rest)
  | [] => ([], [])

def digitRun? (isDigit : Char → Bool) : List Char → Option (List Char × List Char)
  | c :: rest =>
    if isDigit c then
      let (digits, rest) := moreDigits isDigit rest
      some (c :: digits, rest)
    else none
  | [] => none

-- A decimal integer with its sign; no zero comes before another digit.
def decimalRun? (text : List Char) : Option (List Char × List Char) :=
  let (sign, rest) := match text with
    | '+' :: rest => (['+'], rest)
    | '-' :: rest => (['-'], rest)
    | rest => ([], rest)
  match rest with
  | '0' :: rest => some (sign ++ ['0'], rest)
  | rest => (digitRun? Char.isDigit rest).map fun (digits, rest) => (sign ++ digits, rest)

def exponentRun? : List Char → Option (List Char × List Char)
  | mark :: rest =>
    if mark = 'e' ∨ mark = 'E' then
      match rest with
      | '+' :: rest => (digitRun? Char.isDigit rest).map fun (digits, rest) => ('e' :: digits, rest)
      | '-' :: rest =>
        (digitRun? Char.isDigit rest).map fun (digits, rest) => ('e' :: '-' :: digits, rest)
      | rest => (digitRun? Char.isDigit rest).map fun (digits, rest) => ('e' :: digits, rest)
    else none
  | [] => none

def floatRun? (text : List Char) : Option (List Char × List Char) := do
  let (whole, rest) ← decimalRun? text
  match rest with
  | '.' :: rest =>
    let (fraction, rest) ← digitRun? Char.isDigit rest
    let (exponent, rest) := (exponentRun? rest).getD ([], rest)
    return (whole ++ '.' :: fraction ++ exponent, rest)
  | rest =>
    let (exponent, rest) ← exponentRun? rest
    return (whole ++ exponent, rest)

def infinity : Float := Float.ofBits 0x7ff0000000000000

def namedFloat? (text : List Char) : Option (Float × List Char) :=
  let (negative, rest) := Number.splitSign text
  match rest with
  | 'i' :: 'n' :: 'f' :: rest => some (if negative then -infinity else infinity, rest)
  | 'n' :: 'a' :: 'n' :: rest => some (0 / 0, rest)
  | _ => none

def readFloat? (text : List Char) : Option (Except Fault (Value × List Char)) :=
  match floatRun? text with
  | some (digits, rest) =>
    match Number.readFloat? digits with
    | some x =>
      -- A positive one has to be finite.
      if x == infinity then some (.error .outOfRange) else some (.ok (.float x, rest))
    | none => some (.error .outOfRange)
  | none => (namedFloat? text).map fun (x, rest) => .ok (.float x, rest)

def isDigitOf (base : Nat) (c : Char) : Bool :=
  (hexDigit? c).any (· < base)

def integerValue (n : Int) (rest : List Char) : Except Fault (Value × List Char) :=
  if Int64.minValue.toInt ≤ n ∧ n ≤ Int64.maxValue.toInt then .ok (.integer (Int64.ofInt n), rest)
  else .error .outOfRange

def readBase (base : Nat) (text : List Char) : Except Fault (Value × List Char) :=
  match digitRun? (isDigitOf base) text with
  | some (digits, rest) =>
    integerValue (digits.foldl (fun n c => base * n + (hexDigit? c).getD 0) 0 : Nat) rest
  | none => .error (.expected "digits")

def readInteger : Step Value
  | '0' :: 'x' :: rest => readBase 16 rest
  | '0' :: 'o' :: rest => readBase 8 rest
  | '0' :: 'b' :: rest => readBase 2 rest
  | text =>
    match decimalRun? text with
    | some (digits, rest) =>
      match Number.readInt? digits with
      | some n => integerValue n rest
      | none => .error (.expected "an integer")
    | none => .error (.expected "a value")

def fixedNumber? (count : Nat) (text : List Char) : Option (Nat × List Char) :=
  let digits := text.take count
  if digits.length = count && digits.all Char.isDigit then
    some (Number.digitsValue digits, text.drop count)
  else none

def pair? (low high : Nat) (text : List Char) : Option (Nat × List Char) :=
  (fixedNumber? 2 text).filter fun (n, _) => low ≤ n && n ≤ high

def expect? (c : Char) : List Char → Option (List Char)
  | first :: rest => if first = c then some rest else none
  | [] => none

def daysIn (year month : Nat) : Nat :=
  if month = 2 then
    if year % 4 = 0 ∧ (year % 100 ≠ 0 ∨ year % 400 = 0) then 29 else 28
  else if month = 4 ∨ month = 6 ∨ month = 9 ∨ month = 11 then 30
  else 31

def readDate? (text : List Char) : Option (Date × List Char) := do
  let (year, rest) ← fixedNumber? 4 text
  let (month, rest) ← pair? 1 12 (← expect? '-' rest)
  let (day, rest) ← pair? 1 (daysIn year month) (← expect? '-' rest)
  return (⟨year, month, day⟩, rest)

-- The fraction of a second, in nanoseconds; what is smaller is cut off.
def readFraction? (text : List Char) : Option (Nat × List Char) := do
  let rest ← expect? '.' text
  let digits := rest.takeWhile Char.isDigit
  if digits.isEmpty then none
  else
    let nine := (digits ++ List.replicate 9 '0').take 9
    return (Number.digitsValue nine, rest.dropWhile Char.isDigit)

structure TimeLimits where
  hour : Nat
  offsetHour : Nat
  offsetMinute : Nat

-- How far from universal time a local time can be, in minutes.
def offsetLimit : Nat := 1440

def readTime? (limits : TimeLimits) (text : List Char) : Option (Time × List Char) := do
  let (hour, rest) ← pair? 0 limits.hour text
  let (minute, rest) ← pair? 0 59 (← expect? ':' rest)
  let (second, rest) ← pair? 0 60 (← expect? ':' rest)
  let (nanosecond, rest) := (readFraction? rest).getD (0, rest)
  return (⟨hour, minute, second, nanosecond⟩, rest)

def readOffset? (limits : TimeLimits) : List Char → Option (Offset × List Char)
  | 'Z' :: rest | 'z' :: rest => some (.utc, rest)
  | sign :: rest =>
    if sign = '+' ∨ sign = '-' then do
      let (hours, rest) ← pair? 0 limits.offsetHour rest
      let (minutes, rest) ← pair? 0 limits.offsetMinute (← expect? ':' rest)
      let total := 60 * hours + minutes
      if offsetLimit < total then none
      else return (.minutes (if sign = '-' then -(total : Int) else total), rest)
    else none
  | [] => none

def readTimeOfDay? (limits : TimeLimits) :
    List Char → Option ((Time × Option Offset) × List Char)
  | mark :: rest =>
    if mark = 'T' ∨ mark = 't' ∨ mark = ' ' then do
      let (time, rest) ← readTime? limits rest
      match readOffset? limits rest with
      | some (offset, rest) => return ((time, some offset), rest)
      | none => return ((time, none), rest)
    else none
  | [] => none

def readMoment? (limits : TimeLimits) (text : List Char) : Option (Moment × List Char) :=
  match readDate? text with
  | some (date, rest) =>
    match readTimeOfDay? limits rest with
    | some ((time, offset), rest) => some (⟨some date, some time, offset⟩, rest)
    | none => some (⟨some date, none, none⟩, rest)
  | none => (readTime? limits text).map fun (time, rest) => (⟨none, some time, none⟩, rest)

def TimeLimits.bare : TimeLimits := ⟨23, 23, 59⟩

def readNumber (text : List Char) : Except Fault (Value × List Char) :=
  match readMoment? .bare text with
  | some (moment, rest) => .ok (.moment moment, rest)
  | none => (readFloat? text).getD (readInteger text)

end Stencil.Toml
