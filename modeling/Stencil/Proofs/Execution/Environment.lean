import Stencil.Proofs.Execution.Loop

set_option autoImplicit false

namespace Stencil

-- The counters of the loops around a place, the innermost first. It is handed down the tree, and so
-- nothing is ever taken off.
abbrev Environment := List (String × Value)

namespace Evaluation

def elementIn (environment : Environment) : Element → Evaluation Unit
  | .var name =>
    match environment.lookup name with
    | some value => push value
    | none => throw (.noSuchEntry name)
  -- No other element looks anything up.
  | other => element Store.empty other

def elementsIn (environment : Environment) : List Element → Evaluation Unit
  | [] => pure ()
  | first :: rest => do
    elementIn environment first
    elementsIn environment rest

end Evaluation

namespace Effect

def ofOperation (operation : Response.Operation Unit) : Effect := fun response =>
  ((operation response).1.mapError fun fault => Halt.failed (.response fault),
    (operation response).2)

def writeValues : List Value → Effect
  | [] => done
  | value :: rest => (ofOperation (Response.writeText value.display)).andThen (writeValues rest)

def output (environment : Environment) (elements : List Element) : Effect := fun response =>
  match Evaluation.elementsIn environment elements ⟨[], response⟩ with
  | (.ok (), frame) => writeValues frame.stack.reverse frame.response
  | (.error fault, frame) => (.error (.failed fault), frame.response)

end Effect

mutual

/-- What a node does to a response inside loops with the counters of an environment. -/
def Node.effect (limit : Nat) (environment : Environment) : Node → Effect
  | .text content => Effect.ofOperation (Response.writeText content)
  | .output elements => Effect.output environment elements
  | .loop head children =>
    Effect.loop
      (fun counter => Node.effectAll limit ((head.variableName, counter) :: environment) children)
      limit head

def Node.effectAll (limit : Nat) (environment : Environment) : List Node → Effect
  | [] => Effect.done
  | node :: rest => (node.effect limit environment).andThen (Node.effectAll limit environment rest)

end

def Document.effect (limit : Nat) (document : Document) : Effect :=
  (Node.effectAll limit [] document.children).andThen
    (Effect.ofOperation (Response.writeBytes ['\n'.toUInt8]))

def Environment.store : Environment → Store
  | [] => Store.empty
  | (name, value) :: rest => (Environment.store rest).push name value

namespace Environment

variable {environment : Environment} {store : Store}

theorem peek_store (environment : Environment) (name : String) :
    environment.store.peek name =
      match environment.lookup name with
      | some value => .ok value
      | none => .error (.noSuchEntry name) := by
  induction environment with
  | nil => rfl
  | cons entry rest ih =>
    obtain ⟨key, value⟩ := entry
    rw [store, Store.peek, Store.stack_push, Entries.lookup_cons_eq]
    by_cases isKey : name = key
    next => simp only [if_pos isKey]
    next =>
      simp only [if_neg isKey]
      exact ih

end Environment

namespace Evaluation
theorem element_store (environment : Environment) (one : Element) :
    element environment.store one = elementIn environment one := by
  cases one with
  | var name =>
    rw [element, elementIn, Environment.peek_store]
    cases environment.lookup name <;> rfl
  | _ => rfl

theorem elements_store (environment : Environment) (list : List Element) :
    elements environment.store list = elementsIn environment list := by
  induction list with
  | nil => rfl
  | cons first rest ih => rw [elements, elementsIn, element_store, ih]

end Evaluation

namespace Execution

theorem effect_bind {first second : Execution Unit} (restores : first.Restores)
    (respects : second.Respects) (store : Store) :
    effect (first >>= fun _ => second) store =
      (effect first store).andThen (effect second store) := by
  funext response
  rw [effect, bind_apply, Effect.andThen, effect]
  rcases ran : first ⟨store, response⟩ with ⟨_ | _, after⟩
  next => rfl
  next =>
    have left := restores.same ran
    obtain ⟨result, same⟩ := respects after ⟨store, after.response⟩ ⟨left, rfl⟩
    exact Prod.ext result same.response

theorem effect_writeValues (values : List Value) (store : Store) :
    effect (writeValues values) store = Effect.writeValues values := by
  induction values with
  | nil => rfl
  | cons value rest ih =>
    rw [writeValues, Effect.writeValues,
      effect_bind (restores_respond _) (respects_of_keeps
        (keeps_writeValues Response.bisimulation_eq rest)), ih]
    rfl

theorem effect_output (environment : Environment) (elements : List Element) :
    effect (do writeValues (← evaluate elements)) environment.store =
      Effect.output environment elements := by
  funext response
  rw [effect, bind_apply, evaluate, Effect.output, Evaluation.elements_store]
  rcases Evaluation.elementsIn environment elements ⟨[], response⟩ with ⟨_ | _, frame⟩
  next => rfl
  next => exact congrFun (effect_writeValues frame.stack.reverse environment.store) frame.response

end Execution

namespace Node

theorem effect_executeAll_cons (limit : Nat) (node : Node) (rest : List Node) (store : Store) :
    Execution.effect (executeAll limit (node :: rest)) store =
      (Execution.effect (execute limit node) store).andThen
        (Execution.effect (executeAll limit rest) store) := by
  rw [executeAll]
  exact Execution.effect_bind (leavesAtMost_execute limit node).restores
    (respects_executeAll limit rest) store

theorem effect_executeAll (limit : Nat) (nodes : List Node) (environment : Environment) :
    Execution.effect (executeAll limit nodes) environment.store =
      effectAll limit environment nodes := by
  induction nodes using siblings_induction generalizing environment with
  | nil => rfl
  | text content rest ih =>
    rw [effect_executeAll_cons, effectAll, ih]
    rfl
  | output elements rest ih =>
    rw [effect_executeAll_cons, effectAll, ih, execute, Execution.effect_output]
    rfl
  | loop head children rest inside after =>
    -- A visit with a counter is one in the environment with the counter in front.
    have visits : visit limit head children environment.store =
        fun counter => effectAll limit ((head.variableName, counter) :: environment) children :=
      funext fun counter => inside ((head.variableName, counter) :: environment)
    rw [effect_executeAll_cons, effectAll, after, effect_execute_loop, visits]
    rfl

end Node

theorem Document.effect_executeWithin (limit : Nat) (document : Document) :
    Execution.effect (document.executeWithin limit) Store.empty = document.effect limit := by
  have ending := Execution.respects_of_keeps (Execution.keeps_respond
    (Response.bisimulation_eq.writeBytes ['\n'.toUInt8]))
  rw [executeWithin, effect, Execution.effect_bind
    (Node.leavesAtMost_executeAll limit document.children).restores ending]
  exact congrArg (Effect.andThen · _) (Node.effect_executeAll limit document.children [])

end Stencil
