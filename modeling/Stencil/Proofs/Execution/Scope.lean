import Stencil.Proofs.Document.Linear
import Stencil.Proofs.Execution.Bisimulation
import Stencil.Proofs.Store

set_option autoImplicit false

namespace Stencil

open Stateful

structure Machine.Same (a b : Machine) : Prop where
  store : a.store.Same b.store
  response : a.response = b.response

structure Machine.Alike (related : Response → Response → Prop) (a b : Machine) : Prop where
  store : a.store.Same b.store
  response : related a.response b.response

theorem Response.bisimulation_eq : Response.Bisimulation Eq where
  parameters := congrArg _
  persistent := congrArg _
  temporary := congrArg _
  setPersistent _ _ := congrArg _
  removePersistent _ := congrArg _
  setTemporary _ _ := congrArg _
  removeTemporary _ := congrArg _
  setMimeType _ _ _ same := same ▸ ⟨rfl, rfl⟩
  writeText _ _ _ same := same ▸ ⟨rfl, rfl⟩
  writeBytes _ _ _ same := same ▸ ⟨rfl, rfl⟩

namespace Evaluation

theorem element_congr {a b : Store} (same : a.Same b) (one : Element) :
    element a one = element b one := by
  cases one <;> simp [element, same.peek]

theorem elements_congr {a b : Store} (same : a.Same b) (list : List Element) :
    elements a list = elements b list := by
  induction list with
  | nil => rfl
  | cons first rest ih => rw [elements, elements, element_congr same, ih]

end Evaluation

namespace Execution

variable {α β : Type}

theorem bind_apply (first : Execution α) (next : α → Execution β) (machine : Machine) :
    (first >>= next) machine =
      match first machine with
      | (.ok value, after) => next value after
      | (.error halt, after) => (.error halt, after) := by
  rw [Stateful.bind_apply]
  rcases first machine with ⟨_ | _, after⟩ <;> rfl

theorem ofResult_apply (result : Except RuntimeError α) (machine : Machine) :
    ofResult result machine = (result.mapError Halt.failed, machine) := by
  cases result <;> rfl

theorem pushVariable_apply (name : String) (value : Value) (machine : Machine) :
    pushVariable name value machine =
      (.ok (), { machine with store := machine.store.push name value }) := rfl

theorem peekVariable_apply (name : String) (machine : Machine) :
    peekVariable name machine = ((machine.store.peek name).mapError Halt.failed, machine) :=
  ofResult_apply _ machine

theorem popVariable_apply (name : String) (machine : Machine) :
    popVariable name machine =
      ((Store.pop name machine.store).1.mapError Halt.failed,
        { machine with store := (Store.pop name machine.store).2 }) := rfl

theorem respond_apply (operation : Response.Operation Unit) (machine : Machine) :
    respond operation machine =
      ((operation machine.response).1.mapError fun fault => Halt.failed (.response fault),
        { machine with response := (operation machine.response).2 }) := rfl

theorem evaluate_apply (elements : List Element) (machine : Machine) :
    evaluate elements machine =
      (((Evaluation.elements machine.store elements ⟨[], machine.response⟩).1.map fun _ =>
          (Evaluation.elements machine.store elements ⟨[], machine.response⟩).2.stack.reverse).mapError
        Halt.failed,
        { machine with
          response := (Evaluation.elements machine.store elements ⟨[], machine.response⟩).2.response }) :=
  rfl

theorem discard_eq (action : Execution α) :
    (discard action : Execution Unit) = action >>= fun _ => pure () := by
  have mapped : (discard action : Execution Unit) = (fun _ => ()) <$> action := rfl
  rw [mapped, ← bind_pure_comp]

def Respects (action : Execution α) : Prop :=
  ∀ a b : Machine, a.Same b → (action a).1 = (action b).1 ∧ (action a).2.Same (action b).2

def Restores (action : Execution α) : Prop :=
  ∀ machine value, (action machine).1 = .ok value → (action machine).2.store.Same machine.store

theorem Restores.same {action : Execution α} (restores : action.Restores)
    {machine after : Machine} {value : α} (ran : action machine = (.ok value, after)) :
    after.store.Same machine.store := by
  have left := restores machine value
  rw [ran] at left
  exact left rfl

theorem restores_respond (operation : Response.Operation Unit) : (respond operation).Restores :=
  fun machine _ _ => Store.Same.refl machine.store

variable {related : Response → Response → Prop}

theorem respects_of_keeps {action : Execution α} (kept : Keeps (Machine.Alike Eq) action) :
    action.Respects := by
  intro a b same
  obtain ⟨result, left⟩ := kept a b ⟨same.store, same.response⟩
  exact ⟨result, left.store, left.response⟩

theorem keeps_respond {operation : Response.Operation Unit} (kept : Keeps related operation) :
    Keeps (Machine.Alike related) (respond operation) := by
  intro a b same
  obtain ⟨result, left⟩ := kept _ _ same.response
  rw [respond_apply, respond_apply, result]
  exact ⟨rfl, same.store, left⟩

theorem keeps_evaluate (bisimulation : Response.SilentBisimulation related)
    (elements : List Element) : Keeps (Machine.Alike related) (evaluate elements) := by
  intro a b same
  obtain ⟨result, left⟩ := Evaluation.keeps_elements bisimulation b.store elements
    ⟨[], a.response⟩ ⟨[], b.response⟩ ⟨rfl, same.response⟩
  rw [evaluate_apply, evaluate_apply, Evaluation.elements_congr same.store, result, left.stack]
  exact ⟨rfl, same.store, left.response⟩

theorem keeps_writeValues (bisimulation : Response.Bisimulation related) (values : List Value) :
    Keeps (Machine.Alike related) (writeValues values) := by
  induction values with
  | nil => exact keeps_pure ()
  | cons value rest ih => exact (keeps_respond (bisimulation.writeText _)).bind fun _ => ih

theorem keeps_ofResult (result : Except RuntimeError α) :
    Keeps (Machine.Alike related) (ofResult result) :=
  keeps_liftExcept _

theorem keeps_pushVariable (name : String) (value : Value) :
    Keeps (Machine.Alike related) (pushVariable name value) :=
  keeps_modify fun _ _ same => ⟨same.store.push name value, same.response⟩

theorem keeps_peekVariable (name : String) :
    Keeps (Machine.Alike related) (peekVariable name) := by
  intro a b same
  rw [peekVariable_apply, peekVariable_apply, same.store.peek]
  exact ⟨rfl, same⟩

theorem keeps_popVariable (name : String) : Keeps (Machine.Alike related) (popVariable name) := by
  intro a b same
  obtain ⟨result, left⟩ := same.store.pop name
  rw [popVariable_apply, popVariable_apply, result]
  exact ⟨rfl, left, same.response⟩

theorem keeps_discard {action : Execution α} (inside : Keeps (Machine.Alike related) action) :
    Keeps (Machine.Alike related) (discard action : Execution Unit) := by
  rw [discard_eq]
  exact inside.bind fun _ => keeps_pure ()

def test (name : String) (stop : Value) : Execution Bool := do
  let current ← peekVariable name
  if (← ofResult (current.compare stop)) = .gt then
    discard (popVariable name)
    return false
  return true

def advance (name : String) (stop step : Value) : Execution Bool := do
  let counter ← popVariable name
  match counter.add step with
  | .error (.overflow _) => return false
  | .error fault => throw (.failed fault)
  | .ok next =>
    let order ← ofResult (next.compare stop)
    pushVariable name next
    if order = .gt then
      discard (popVariable name)
      return false
    return true

section

variable {name : String} {stop step : Value} {body : Execution Unit} {limit : Nat}

theorem rounds_zero : rounds name stop step body 0 = (do
    if ← test name stop then throw .unfinished) := by
  rw [rounds, test]
  simp only [bind_assoc]
  congr 1
  funext current
  congr 1
  funext order
  split <;> simp

theorem rounds_succ : rounds name stop step body (limit + 1) = (do
    if ← test name stop then
      body
      if ← advance name stop step then rounds name stop step body limit) := by
  rw [rounds, test]
  simp only [bind_assoc]
  congr 1
  funext current
  congr 1
  funext order
  split
  next => simp
  next =>
    simp only [pure_bind, if_true, advance, bind_assoc]
    congr 1
    funext _
    congr 1
    funext counter
    cases counter.add step with
    | error fault => cases fault <;> rfl
    | ok next =>
      simp only [bind_assoc]
      congr 1
      funext order
      congr 1
      funext _
      split <;> simp

theorem keeps_test : Keeps (Machine.Alike related) (test name stop) := by
  refine (keeps_peekVariable name).bind fun current => (keeps_ofResult _).bind fun order => ?_
  split
  next => exact (keeps_discard (keeps_popVariable name)).bind fun _ => keeps_pure false
  next => exact keeps_pure true

theorem keeps_advance : Keeps (Machine.Alike related) (advance name stop step) := by
  refine (keeps_popVariable name).bind fun counter => ?_
  split
  next => exact keeps_pure false
  next => exact keeps_throw _
  next following _ =>
    refine (keeps_ofResult _).bind fun order => (keeps_pushVariable name following).bind fun _ => ?_
    split
    next => exact (keeps_discard (keeps_popVariable name)).bind fun _ => keeps_pure false
    next => exact keeps_pure true

theorem keeps_rounds (inside : Keeps (Machine.Alike related) body) :
    Keeps (Machine.Alike related) (rounds name stop step body limit) := by
  induction limit with
  | zero =>
    rw [rounds_zero]
    refine keeps_test.bind fun goesOn => ?_
    split
    next => exact keeps_throw _
    next => exact keeps_pure ()
  | succ limit ih =>
    rw [rounds_succ]
    refine keeps_test.bind fun goesOn => ?_
    split
    next =>
      refine inside.bind fun _ => keeps_advance.bind fun again => ?_
      split
      next => exact ih
      next => exact keeps_pure ()
    next => exact keeps_pure ()

end

theorem keeps_loop {body : Execution Unit} (inside : Keeps (Machine.Alike related) body)
    (limit : Nat) (head : LoopHead) : Keeps (Machine.Alike related) (loop limit head body) := by
  -- The counter is pushed before the rounds, and so onto the same stacks.
  refine (keeps_ofResult _).bind fun start => (keeps_ofResult _).bind fun stop => ?_
  refine (keeps_ofResult _).bind fun step => (keeps_pushVariable _ _).bind fun _ => ?_
  exact keeps_rounds inside

end Execution

theorem Node.keeps_executeAll {related : Response → Response → Prop}
    (bisimulation : Response.Bisimulation related) (limit : Nat) (nodes : List Node) :
    Keeps (Machine.Alike related) (executeAll limit nodes) := by
  induction nodes using siblings_induction with
  | nil => exact keeps_pure ()
  | text content rest ih =>
    rw [executeAll, execute]
    exact (Execution.keeps_respond (bisimulation.writeText content)).bind fun _ => ih
  | output elements rest ih =>
    have output : Keeps (Machine.Alike related) (execute limit (.output elements)) :=
      (Execution.keeps_evaluate bisimulation.toSilentBisimulation elements).bind
        (Execution.keeps_writeValues bisimulation)
    rw [executeAll]
    exact output.bind fun _ => ih
  | loop head children rest inside after =>
    rw [executeAll, execute]
    exact (Execution.keeps_loop inside limit head).bind fun _ => after

theorem Document.keeps_executeWithin {related : Response → Response → Prop}
    (bisimulation : Response.Bisimulation related) (limit : Nat) (document : Document) :
    Keeps (Machine.Alike related) (document.executeWithin limit) :=
  (Node.keeps_executeAll bisimulation limit document.children).bind fun _ =>
    Execution.keeps_respond (bisimulation.writeBytes _)

end Stencil
