import Stencil.DecimalPattern
import Stencil.Response
import Stencil.Value.Arithmetic

set_option autoImplicit false

namespace Stencil

structure Frame where
  -- The evaluation stack, top first.
  stack : List Value := []
  response : Response

-- A step of an evaluation; what it did before failing stays done.
abbrev Evaluation := ExceptT RuntimeError (StateM Frame)

namespace Evaluation

def push (value : Value) : Evaluation Unit :=
  modify fun frame => { frame with stack := value :: frame.stack }

def pop (consumer : Consumer) : Evaluation Value := do
  let frame ← get
  match frame.stack with
  | [] => throw (.stackUnderflow consumer)
  | value :: rest =>
    set { frame with stack := rest }
    return value

def ofResult {α : Type} (result : Except RuntimeError α) : Evaluation α :=
  liftExcept result

def respond (operation : Response.Operation Unit) : Evaluation Unit := fun frame =>
  let (result, response) := operation frame.response
  (result.mapError .response, { frame with response })

end Evaluation

namespace Builtin

open Evaluation

def popText (builtin : Builtin) : Evaluation String := do
  match ← pop (.builtin builtin) with
  | .text content => return content
  | found => throw (.typeError builtin found)

def degree : Float := 0.017453292519943295

def callSin : Evaluation Unit := do
  let angle ← ofResult (← pop (.builtin .sin)).toFloat
  push (.double (angle * degree).sin)

def callDecfmt : Evaluation Unit := do
  let pattern ← popText .decfmt
  let number ← ofResult (← pop (.builtin .decfmt)).toFloat
  match DecimalPattern.parse? pattern.toList with
  | some parsed => push (.text (String.ofList (parsed.format number)))
  | none => throw (.invalidFormat pattern)

def callDup : Evaluation Unit := do
  match (← get).stack with
  | [] => throw (.stackUnderflow (.builtin .dup))
  | value :: _ => push value

def callSwap : Evaluation Unit := do
  let first ← pop (.builtin .swap)
  let second ← pop (.builtin .swap)
  push first
  push second

def callSetMimeType : Evaluation Unit := do
  let mimeType ← popText .setMimeType
  respond (Response.setMimeType mimeType)

def callGet (builtin : Builtin) (scope : Response → Scope) : Evaluation Unit := do
  let default ← pop (.builtin builtin)
  let name ← popText builtin
  push (((scope (← get).response).get? name).elim default .text)

def callSet (builtin : Builtin) (change : String → String → Response → Response) :
    Evaluation Unit := do
  let name ← popText builtin
  let value ← pop (.builtin builtin)
  modify fun frame => { frame with response := change name value.display frame.response }

def callDelete (builtin : Builtin) (change : String → Response → Response) : Evaluation Unit := do
  let name ← popText builtin
  modify fun frame => { frame with response := change name frame.response }

def call : Builtin → Evaluation Unit
  | sin => callSin
  | decfmt => callDecfmt
  | dup => callDup
  | swap => callSwap
  | setMimeType => callSetMimeType
  | paramGet => callGet paramGet Response.parameters
  | pparamGet => callGet pparamGet Response.persistent
  | pparamSet => callSet pparamSet Response.setPersistent
  | pparamDel => callDelete pparamDel Response.removePersistent
  | tparamGet => callGet tparamGet Response.temporary
  | tparamSet => callSet tparamSet Response.setTemporary
  | tparamDel => callDelete tparamDel Response.removeTemporary

end Builtin

end Stencil
