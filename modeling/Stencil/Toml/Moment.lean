import Stencil.Toml.Scalar
import Stencil.Toml.Spelling

set_option autoImplicit false

namespace Stencil.Toml

def momentKey : String := "$__toml_private_datetime"

-- The times that a text may spell: hours up to twenty-four, and any digits in an offset.
def TimeLimits.spelled : TimeLimits := ⟨24, 99, 99⟩

def Moment.ofText? (content : String) : Option Moment :=
  match readMoment? .spelled content.toList with
  | some (moment, []) => some moment
  | _ => none

def Moment.entries (moment : Moment) : Table :=
  [(momentKey, .string (String.ofList moment.spelling))]

def Moment.ofValue : Value → Except Fault Moment
  | .string content => (Moment.ofText? content).elim (.error (.expected "a moment")) .ok
  | _ => .error (.wrongType momentKey "a string")

mutual

def Value.resolve : Value → Except Fault Value
  | .array items => (resolveItems items).map .array
  | .table [] => .ok (.table [])
  | .table ((key, v) :: rest) =>
    -- What follows the moment key in its table is of no account.
    if key = momentKey then (Moment.ofValue v).map .moment
    else do
      return .table ((key, ← v.resolve) :: (← resolveEntries rest))
  | v => .ok v

def resolveItems : List Value → Except Fault (List Value)
  | [] => .ok []
  | item :: rest => do
    return (← item.resolve) :: (← resolveItems rest)

def resolveEntries : List (String × Value) → Except Fault (List (String × Value))
  | [] => .ok []
  | (key, v) :: rest => do
    return (key, ← v.resolve) :: (← resolveEntries rest)

end

end Stencil.Toml
