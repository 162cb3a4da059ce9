import Stencil.Builtin
import Stencil.Document
import Stencil.Store

set_option autoImplicit false

namespace Stencil

structure Machine where
  store : Store := {}
  response : Response := {}

inductive Halt
  | failed (e : RuntimeError)
  | unfinished
  deriving DecidableEq

/-- A step of an execution; what it did before stopping stays done. -/
abbrev Execution := ExceptT Halt (StateM Machine)

namespace Execution

def ofResult {α : Type} (result : Except RuntimeError α) : Execution α :=
  liftExcept (result.mapError Halt.failed)

def respond (operation : Response.Operation Unit) : Execution Unit := fun machine =>
  let (result, response) := operation machine.response
  (result.mapError fun fault => Halt.failed (.response fault), { machine with response })

def pushVariable (name : String) (value : Value) : Execution Unit :=
  modify fun machine => { machine with store := machine.store.push name value }

def popVariable (name : String) : Execution Value := fun machine =>
  let (result, store) := Store.pop name machine.store
  (result.mapError Halt.failed, { machine with store })

def peekVariable (name : String) : Execution Value := do
  ofResult ((← get).store.peek name)

end Execution

namespace Evaluation

def element (store : Store) : Element → Evaluation Unit
  | .var name => do push (← ofResult (store.peek name))
  | .operator op => do
    -- The value on top stands on the left of the operator.
    let first ← pop (.operator op)
    let second ← pop (.operator op)
    push (← ofResult (Value.apply op first second))
  | .call name =>
    match Builtin.ofName? name with
    | some builtin => builtin.call
    | none => throw (.unknownFunction name)
  | literal =>
    match Value.ofLiteral? literal with
    | some value => push value
    | none => pure ()

def elements (store : Store) : List Element → Evaluation Unit
  | [] => pure ()
  | first :: rest => do
    element store first
    elements store rest

end Evaluation

namespace Execution

def evaluate (elements : List Element) : Execution (List Value) := fun machine =>
  let (result, frame) := Evaluation.elements machine.store elements ⟨[], machine.response⟩
  ((result.map fun _ => frame.stack.reverse).mapError Halt.failed,
    { machine with response := frame.response })

def writeValues : List Value → Execution Unit
  | [] => pure ()
  | value :: rest => do
    respond (Response.writeText value.display)
    writeValues rest

def loopOperand (element : Element) : Except RuntimeError Value :=
  match element with
  -- A name counts as a text and is not looked up.
  | .var name => (Value.text name).coerce
  | other =>
    match Value.ofLiteral? other with
    | some value => value.coerce
    | none => .error (.unsupportedValue other.kind)

def rounds (name : String) (stop step : Value) (body : Execution Unit) (limit : Nat) :
    Execution Unit := do
  let current ← peekVariable name
  if (← ofResult (current.compare stop)) = .gt then
    discard (popVariable name)
  else
    match limit with
    | 0 => throw .unfinished
    | limit + 1 =>
      body
      let counter ← popVariable name
      match counter.add step with
      -- A counter that leaves the range of integers ends the loop.
      | .error (.overflow _) => return ()
      | .error fault => throw (.failed fault)
      | .ok next =>
        let order ← ofResult (next.compare stop)
        pushVariable name next
        if order = .gt then
          discard (popVariable name)
        else
          rounds name stop step body limit

def loop (limit : Nat) (head : LoopHead) (body : Execution Unit) : Execution Unit := do
  let start ← ofResult (loopOperand head.start)
  let stop ← ofResult (loopOperand head.stop)
  let step ← ofResult (head.step.elim (.ok (.integer 1)) loopOperand)
  pushVariable head.variableName start
  rounds head.variableName stop step body limit

end Execution

mutual

def Node.execute (limit : Nat) : Node → Execution Unit
  | .text content => Execution.respond (Response.writeText content)
  | .output elements => do Execution.writeValues (← Execution.evaluate elements)
  | .loop head children => Execution.loop limit head (Node.executeAll limit children)

def Node.executeAll (limit : Nat) : List Node → Execution Unit
  | [] => pure ()
  | node :: rest => do
    node.execute limit
    Node.executeAll limit rest

end

/-- No loop that counts to its end has more rounds than this: its counter never is the same number
twice, and there are no more numbers of one kind. -/
def roundLimit : Nat := 0x10000000000000000

def Document.executeWithin (limit : Nat) (document : Document) : Execution Unit := do
  Node.executeAll limit document.children
  Execution.respond (Response.writeBytes ['\n'.toUInt8])

def Document.execute (document : Document) : Execution Unit :=
  document.executeWithin roundLimit

end Stencil
