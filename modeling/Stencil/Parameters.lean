import Stencil.Toml.Moment
import Stencil.Toml.Reader
import Stencil.Response.Scope

set_option autoImplicit false

namespace Stencil

inductive PairError
  | noEquals (content : String)
  | emptyName (content : String)
  deriving DecidableEq, Repr

def PairError.message : PairError → String
  | noEquals content => "expected NAME=VALUE, got '" ++ content ++ "'"
  | emptyName content => "empty parameter name in '" ++ content ++ "'"

def readPair (content : String) : Except PairError (String × String) :=
  let name := content.toList.takeWhile (· != '=')
  match content.toList.dropWhile (· != '=') with
  | [] => .error (.noEquals content)
  | _ :: value =>
    if name.isEmpty then .error (.emptyName content)
    else .ok (String.ofList name, String.ofList value)

namespace Toml

-- The text that a value has as a parameter: a string itself, a moment its spelling as a table, and
-- other values their own spelling.
def Value.parameter : Value → String
  | .string content => content
  | .moment m => String.ofList (Value.table m.entries).spelling
  | other => String.ofList other.spelling

def Table.parameters (table : Table) : List (String × String) :=
  table.map fun (key, v) => (key, v.parameter)

def Value.entries? : Value → Option Table
  | .table entries => some entries
  | .moment m => some m.entries
  | _ => none

def Table.table? (table : Table) (key : String) : Except Fault (Option Table) :=
  match table.lookup key with
  | none => .ok none
  | some v =>
    match v.entries? with
    | some entries => (resolveEntries entries).map some
    | none => .error (.wrongType key "a table")

def Table.string? (table : Table) (key : String) : Except Fault (Option String) :=
  match table.lookup key with
  | none => .ok none
  | some (.string content) => .ok (some content)
  | some _ => .error (.wrongType key "a string")

end Toml

structure ParameterFile where
  params : Toml.Table := []
  persistent : Toml.Table := []

def ParameterFile.read (content : String) : Except Toml.Fault ParameterFile := do
  let table ← Toml.readTable content
  return ⟨(← table.table? "params").getD [], (← table.table? "persistent").getD []⟩

end Stencil
