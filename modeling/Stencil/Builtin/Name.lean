set_option autoImplicit false

namespace Stencil

inductive Builtin
  | sin
  | decfmt
  | dup
  | swap
  | setMimeType
  | paramGet
  | pparamGet
  | pparamSet
  | pparamDel
  | tparamGet
  | tparamSet
  | tparamDel
  deriving DecidableEq, Repr

namespace Builtin

def name : Builtin → String
  | sin => "sin"
  | decfmt => "decfmt"
  | dup => "dup"
  | swap => "swap"
  | setMimeType => "setMimeType"
  | paramGet => "paramGet"
  | pparamGet => "pparamGet"
  | pparamSet => "pparamSet"
  | pparamDel => "pparamDel"
  | tparamGet => "tparamGet"
  | tparamSet => "tparamSet"
  | tparamDel => "tparamDel"

def all : List Builtin :=
  [decfmt, dup, paramGet, pparamDel, pparamGet, pparamSet, setMimeType, sin, swap, tparamDel,
    tparamGet, tparamSet]

theorem mem_all (builtin : Builtin) : builtin ∈ all := by
  cases builtin <;> decide

def ofName? (name : String) : Option Builtin :=
  all.find? fun builtin => builtin.name == name

theorem ofName?_name (builtin : Builtin) : ofName? builtin.name = some builtin := by
  cases builtin <;> rfl

end Builtin

end Stencil
