import Stencil.Execution
import Stencil.Text.Lossy

set_option autoImplicit false

namespace Stencil

structure Rendering where
  outcome : Except RuntimeError Unit
  output : List UInt8
  persistent : Scope

/-- What an execution comes to, if it comes to an end. -/
def Execution.settled? {α : Type} : Except Halt α → Option (Except RuntimeError α)
  | .ok value => some (.ok value)
  | .error (.failed e) => some (.error e)
  | .error .unfinished => none

/-- A document executed on parameters, with so many rounds for a loop, and what is left of it. There
is nothing to tell of an execution that they are too few for; one without an end has no number of
rounds that is enough. -/
def Document.renderWithin (limit : Nat) (document : Document) (parameters persistent : Scope)
    (headers : Bool) : Option Rendering :=
  let (outcome, machine) :=
    document.executeWithin limit { response := { parameters, persistent, emitsHeader := headers } }
  (Execution.settled? outcome).map fun outcome =>
    ⟨outcome, machine.response.sink.bytes, machine.response.persistent⟩

def Rendering.text (rendering : Rendering) : String :=
  String.ofList (Text.lossy rendering.output)

end Stencil
