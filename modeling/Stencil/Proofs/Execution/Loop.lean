import Stencil.Proofs.Execution.Restoration

set_option autoImplicit false

namespace Stencil

abbrev Effect := Response → Except Halt Unit × Response

namespace Effect

def done : Effect := fun response => (.ok (), response)

def stop (halt : Halt) : Effect := fun response => (.error halt, response)

def andThen (first second : Effect) : Effect := fun response =>
  match first response with
  | (.ok (), after) => second after
  | (.error halt, after) => (.error halt, after)

def given {α : Type} (result : Except RuntimeError α) (next : α → Effect) : Effect :=
  match result with
  | .error fault => stop (.failed fault)
  | .ok value => next value

/-- Counts from a value on: visits it unless it is past the end, adds the step and goes on. A sum
that leaves the range of integers ends the loop. -/
def countFrom (visit : Value → Effect) (last step : Value) (limit : Nat) (value : Value) : Effect :=
  match value.compare last with
  | .error fault => stop (.failed fault)
  | .ok .gt => done
  | .ok _ =>
    match limit with
    | 0 => stop .unfinished
    | limit + 1 =>
      (visit value).andThen
        (match value.add step with
        | .error (.overflow _) => done
        | .error fault => stop (.failed fault)
        | .ok next => countFrom visit last step limit next)

theorem countFrom_of_error {visit : Value → Effect} {last step value : Value} {limit : Nat}
    {fault : RuntimeError} (compared : value.compare last = .error fault) :
    countFrom visit last step limit value = stop (.failed fault) := by
  rw [countFrom.eq_def, compared]

theorem countFrom_of_greater {visit : Value → Effect} {last step value : Value} {limit : Nat}
    (compared : value.compare last = .ok .gt) :
    countFrom visit last step limit value = done := by
  rw [countFrom.eq_def, compared]

def loop (visit : Value → Effect) (limit : Nat) (head : LoopHead) : Effect :=
  given (Execution.loopOperand head.start) fun start =>
  given (Execution.loopOperand head.stop) fun last =>
  given (head.step.elim (.ok (.integer 1)) Execution.loopOperand) fun step =>
  countFrom visit last step limit start

end Effect

namespace Execution

def effect (action : Execution Unit) (store : Store) : Effect := fun response =>
  ((action ⟨store, response⟩).1, (action ⟨store, response⟩).2.response)

structure Ends (run : Except Halt Unit × Machine) (base : Store)
    (result : Except Halt Unit × Response) : Prop where
  effect : (run.1, run.2.response) = result
  store : run.1 = .ok () → run.2.store.Same base

variable {base : Store} {name : String} {value : Value} {machine : Machine}

theorem ends_error (halt : Halt) (machine : Machine) (base : Store) :
    Ends (.error halt, machine) base (.error halt, machine.response) :=
  ⟨rfl, fun done => by cases done⟩

theorem ends_visit {body rest : Execution Unit} {later : Effect} (respects : body.Respects)
    (restores : body.Restores) (same : machine.store.Same (base.push name value))
    (goesOn : ∀ after : Machine, after.store.Same (base.push name value) →
      Ends (rest after) base (later after.response)) :
    Ends ((body >>= fun _ => rest) machine) base
      ((effect body (base.push name value)).andThen later machine.response) := by
  -- The body runs on another store than the plain visit, but the stacks are the same.
  obtain ⟨result, left⟩ := respects machine ⟨base.push name value, machine.response⟩ ⟨same, rfl⟩
  have restored := restores machine ()
  rw [Effect.andThen, effect, ← result, ← left.response, bind_apply]
  rcases ran : body machine with ⟨_ | _, after⟩
  next halt => exact ends_error halt after base
  next =>
    rw [ran] at restored
    exact goesOn after ((restored rfl).trans same)

theorem ends_test {last : Value} {round : Execution Unit} {later : Effect}
    (same : machine.store.Same (base.push name value))
    (goesOn : Ends (round machine) base (later machine.response)) :
    Ends ((do if ← test name last then round : Execution Unit) machine) base
      ((match value.compare last with
        | .error fault => Effect.stop (.failed fault)
        | .ok .gt => Effect.done
        | .ok _ => later) machine.response) := by
  rw [bind_apply]
  rcases test_cases last same with
    ⟨fault, compared, tested⟩ | ⟨compared, rest, left, tested⟩ | ⟨order, compared, within, tested⟩
  next =>
    rw [tested, compared]
    exact ends_error _ machine base
  next =>
    rw [tested, compared]
    exact ⟨rfl, fun _ => left⟩
  next =>
    rw [tested, compared]
    cases order with
    | gt => exact absurd rfl within
    | lt | eq => exact goesOn

theorem ends_advance {last step : Value} {round : Execution Unit} {limit : Nat}
    {visit : Value → Effect} (same : machine.store.Same (base.push name value))
    (later : ∀ next (machine : Machine), machine.store.Same (base.push name next) →
      Ends (round machine) base (Effect.countFrom visit last step limit next machine.response)) :
    Ends ((do if ← advance name last step then round : Execution Unit) machine) base
      ((match value.add step with
        | .error (.overflow _) => Effect.done
        | .error fault => Effect.stop (.failed fault)
        | .ok next => Effect.countFrom visit last step limit next) machine.response) := by
  rw [bind_apply]
  rcases advance_cases last step same with
    ⟨op, rest, sum, left, advanced⟩ | ⟨fault, rest, sum, other, left, advanced⟩ |
    ⟨next, fault, rest, sum, compared, left, advanced⟩ |
    ⟨next, rest, sum, compared, left, advanced⟩ |
    ⟨next, order, pushed, sum, compared, within, left, advanced⟩
  next =>
    rw [advanced, sum]
    exact ⟨rfl, fun _ => left⟩
  next =>
    rw [advanced, sum]
    cases fault with
    | overflow op => exact absurd rfl (other op)
    | _ => exact ends_error _ _ base
  -- Past the end the plain loop stops at its next test, which is the one made here.
  next =>
    rw [advanced, sum]
    dsimp only
    rw [Effect.countFrom_of_error compared]
    exact ends_error _ _ base
  next =>
    rw [advanced, sum]
    dsimp only
    rw [Effect.countFrom_of_greater compared]
    exact ⟨rfl, fun _ => left⟩
  next =>
    rw [advanced, sum]
    exact later next _ left

theorem ends_rounds {body : Execution Unit} (respects : body.Respects) (restores : body.Restores)
    (last step : Value) (limit : Nat) (same : machine.store.Same (base.push name value)) :
    Ends (rounds name last step body limit machine) base
      (Effect.countFrom (fun counter => effect body (base.push name counter)) last step limit value
        machine.response) := by
  -- The invariant is `same`: the counter lies on the stacks that the loop found.
  induction limit generalizing value machine with
  | zero =>
    rw [rounds_zero, Effect.countFrom]
    exact ends_test same (ends_error .unfinished machine base)
  | succ limit ih =>
    rw [rounds_succ, Effect.countFrom]
    refine ends_test same (ends_visit respects restores same fun after left => ?_)
    exact ends_advance left fun next machine pushed => ih pushed

theorem ends_ofResult {α : Type} {result : Except RuntimeError α} {next : α → Execution Unit}
    {later : α → Effect}
    (goesOn : ∀ output, Ends (next output machine) base (later output machine.response)) :
    Ends ((ofResult result >>= next) machine) base
      (Effect.given result later machine.response) := by
  rw [bind_apply, ofResult_apply]
  cases result with
  | error fault => exact ends_error _ machine base
  | ok output => exact goesOn output

theorem ends_loop {body : Execution Unit} (respects : body.Respects) (restores : body.Restores)
    (limit : Nat) (head : LoopHead) (machine : Machine) :
    Ends (loop limit head body machine) machine.store
      (Effect.loop (fun counter => effect body (machine.store.push head.variableName counter))
        limit head machine.response) := by
  rw [loop, Effect.loop]
  refine ends_ofResult fun start => ends_ofResult fun last => ends_ofResult fun step => ?_
  rw [bind_apply, pushVariable_apply]
  exact ends_rounds respects restores last step limit (Store.Same.refl _)

end Execution

namespace Node

theorem respects_executeAll (limit : Nat) (nodes : List Node) :
    (executeAll limit nodes).Respects :=
  Execution.respects_of_keeps (keeps_executeAll Response.bisimulation_eq limit nodes)

def visit (limit : Nat) (head : LoopHead) (children : List Node) (store : Store) (value : Value) :
    Effect :=
  Execution.effect (executeAll limit children) (store.push head.variableName value)

theorem effect_execute_loop (limit : Nat) (head : LoopHead) (children : List Node)
    (store : Store) :
    Execution.effect (execute limit (.loop head children)) store =
      Effect.loop (visit limit head children store) limit head := by
  funext response
  exact (Execution.ends_loop (respects_executeAll limit children)
    (leavesAtMost_executeAll limit children).restores limit head ⟨store, response⟩).effect

end Node

end Stencil
