import Stencil.Toml.Value

set_option autoImplicit false

namespace Stencil.Toml

-- What a table came into being by decides what may be added to it later.
inductive Origin
  | header
  | implied
  | dotted
  deriving DecidableEq, Repr

inductive Section
  | value (v : Value)
  | table (origin : Origin) (entries : List (String × Section))
  | series (last : List (String × Section)) (earlier : List (List (String × Section)))

namespace Section

abbrev Entries := List (String × Section)

def put (key : String) (item : Section) : Entries → Entries
  | [] => [(key, item)]
  | (other, old) :: rest =>
    if other = key then (key, item) :: rest else (other, old) :: put key item rest

def change (byKey : Bool) (edit : Origin → Entries → Except Fault Entries) :
    List String → Origin → Entries → Except Fault Entries
  | [], origin, entries => edit origin entries
  | key :: path, _, entries =>
    match entries.lookup key with
    | none => do
      let made := if byKey then Origin.dotted else Origin.implied
      return put key (.table made (← change byKey edit path made [])) entries
    | some (.value _) => .error (.notTable key)
    | some (.series last earlier) => do
      return put key (.series (← change byKey edit path .header last) earlier) entries
    | some (.table origin inner) =>
      -- Keys with points pass only through tables that no header made.
      if byKey && origin == .header then .error (.duplicate key)
      else do return put key (.table origin (← change byKey edit path origin inner)) entries

def addValue (path : List String) (key : String) (v : Value) (entries : Entries) :
    Except Fault Entries :=
  change true
    (fun origin inner =>
      -- A key with points adds only to tables made by such keys.
      if (origin == .dotted) == path.isEmpty || (inner.lookup key).isSome then
        .error (.duplicate key)
      else .ok (put key (.value v) inner))
    path .header entries

def openTable (path : List String) (key : String) (entries : Entries) : Except Fault Entries :=
  change false
    (fun _ inner =>
      match inner.lookup key with
      | none => .ok (put key (.table .header []) inner)
      | some (.table .implied below) =>
        -- What a longer header implied before moves to the end.
        .ok ((inner.filter fun entry => entry.1 ≠ key) ++ [(key, .table .header below)])
      | some _ => .error (.duplicate key))
    path .header entries

def openNext (path : List String) (key : String) (entries : Entries) : Except Fault Entries :=
  change false
    (fun _ inner =>
      match inner.lookup key with
      | none => .ok (put key (.series [] []) inner)
      | some (.series last earlier) => .ok (put key (.series [] (last :: earlier)) inner)
      | some _ => .error (.duplicate key))
    path .header entries

mutual

def toValue : Section → Value
  | .value v => v
  | .table _ entries => .table (toTable entries)
  | .series last earlier => .array (.table (toTable last) :: toTables earlier).reverse

def toTables : List Entries → List Value
  | [] => []
  | entries :: rest => .table (toTable entries) :: toTables rest

def toTable : Entries → Table
  | [] => []
  | (key, item) :: rest => (key, item.toValue) :: toTable rest

end

end Section

end Stencil.Toml
