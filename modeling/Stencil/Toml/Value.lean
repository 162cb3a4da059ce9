set_option autoImplicit false

namespace Stencil.Toml

structure Date where
  year : Nat
  month : Nat
  day : Nat
  deriving DecidableEq, Repr

structure Time where
  hour : Nat
  minute : Nat
  second : Nat
  nanosecond : Nat
  deriving DecidableEq, Repr

inductive Offset
  | utc
  | minutes (n : Int)
  deriving DecidableEq, Repr

-- A date, a time, or both; only both together may have an offset.
structure Moment where
  date : Option Date := none
  time : Option Time := none
  offset : Option Offset := none
  deriving DecidableEq, Repr

inductive Value
  | string (content : String)
  | integer (n : Int64)
  | float (x : Float)
  | boolean (b : Bool)
  | moment (m : Moment)
  | array (items : List Value)
  | table (entries : List (String × Value))

abbrev Table := List (String × Value)

inductive Fault
  | expected (what : String)
  | duplicate (key : String)
  | notTable (key : String)
  | outOfRange
  | tooDeep
  | wrongType (key type : String)
  deriving DecidableEq, Repr

def Fault.message : Fault → String
  | expected what => "expected " ++ what
  | duplicate key => "duplicate key '" ++ key ++ "'"
  | notTable key => "'" ++ key ++ "' is not a table"
  | outOfRange => "number out of range"
  | tooDeep => "values are nested too deeply"
  | wrongType key type => "'" ++ key ++ "' has to be " ++ type

abbrev Step (α : Type) := List Char → Except Fault (α × List Char)

end Stencil.Toml
