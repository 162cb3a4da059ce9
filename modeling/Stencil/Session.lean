import Stencil.Execution
import Stencil.Response.Action

set_option autoImplicit false

namespace Stencil.Session

inductive Step
  | act (action : Response.Action)
  | execute (document : Document)

-- Does a step. Every document starts on an empty store.
def Step.perform (step : Step) (response : Response) :
    Except Halt (Option String) × Response :=
  match step with
  | act action =>
    let (answer, after) := action.perform response
    (answer.mapError fun fault => .failed (.response fault), after)
  | execute document =>
    let (result, machine) := document.execute { response }
    (result.map fun _ => none, machine.response)

end Stencil.Session
