import Stencil.Proofs.Execution.Round

set_option autoImplicit false

namespace Stencil

mutual

/-- The largest number of loops over a name, each inside the one before, in a node. -/
def Node.nesting (name : String) : Node → Nat
  | .text _ => 0
  | .output _ => 0
  | .loop head children =>
    Node.nestingAll name children + if head.variableName = name then 1 else 0

def Node.nestingAll (name : String) : List Node → Nat
  | [] => 0
  | node :: rest => max (node.nesting name) (Node.nestingAll name rest)

end

theorem Store.stack_of_same_push {a base : Store} {name : String} {value : Value}
    (same : a.Same (base.push name value)) (other : String) :
    ∃ top, a.stack other = top ++ base.stack other ∧
      top.length = if name = other then 1 else 0 := by
  rw [same other, stack_push]
  by_cases isName : other = name
  next => exact ⟨[value], by simp [isName], by simp [isName]⟩
  next => exact ⟨[], by simp [isName], by simp [Ne.symm isName]⟩

namespace Execution

variable {α β : Type} {base : Store} {excess : String → Nat}

-- Whether a run leaves the stacks of a store as they were if it ends well, and otherwise below at
-- most so many other values.
def Leaves (base : Store) (excess : String → Nat) : Except Halt α × Machine → Prop
  | (.ok _, after) => after.store.Same base
  | (.error _, after) =>
    ∀ name, ∃ top, after.store.stack name = top ++ base.stack name ∧ top.length ≤ excess name

def LeavesAtMost (excess : String → Nat) (action : Execution α) : Prop :=
  ∀ machine, Leaves machine.store excess (action machine)

theorem leaves_of_same {after : Machine} (same : after.store.Same base)
    (result : Except Halt α) : Leaves base excess (result, after) := by
  cases result with
  | ok _ => exact same
  | error _ => exact fun name => ⟨[], same name, Nat.zero_le _⟩

theorem Leaves.mono {run : Except Halt α × Machine} {more : String → Nat}
    (leaves : Leaves base excess run) (le : ∀ name, excess name ≤ more name) :
    Leaves base more run := by
  obtain ⟨_ | _, after⟩ := run
  next =>
    intro name
    obtain ⟨top, found, bound⟩ := leaves name
    exact ⟨top, found, Nat.le_trans bound (le name)⟩
  next => exact leaves

theorem LeavesAtMost.mono {action : Execution α} {more : String → Nat}
    (leaves : LeavesAtMost excess action) (le : ∀ name, excess name ≤ more name) :
    LeavesAtMost more action :=
  fun machine => (leaves machine).mono le

theorem LeavesAtMost.restores {action : Execution α} (leaves : LeavesAtMost excess action) :
    action.Restores := by
  intro machine value done
  have left := leaves machine
  rcases ran : action machine with ⟨result, after⟩
  rw [ran] at done left
  cases done
  exact left

theorem LeavesAtMost.bind {first : Execution α} {next : α → Execution β}
    (before : LeavesAtMost excess first) (after : ∀ value, LeavesAtMost excess (next value)) :
    LeavesAtMost excess (first >>= next) := by
  intro machine
  have left := before machine
  rw [bind_apply]
  rcases ran : first machine with ⟨_ | value, middle⟩
  next =>
    rw [ran] at left
    exact left
  next =>
    rw [ran] at left
    dsimp only
    have later := after value middle
    rcases ranNext : next value middle with ⟨_ | _, last⟩
    next halt =>
      rw [ranNext] at later
      intro name
      obtain ⟨top, found, bound⟩ := later name
      exact ⟨top, by rw [found, left name], bound⟩
    next =>
      rw [ranNext] at later
      exact Store.Same.trans later left

theorem leavesAtMost_of_store_eq {action : Execution α}
    (unchanged : ∀ machine, (action machine).2.store = machine.store) :
    LeavesAtMost excess action := by
  intro machine
  refine leaves_of_same ?_ (action machine).1
  rw [unchanged machine]
  exact Store.Same.refl machine.store

theorem leavesAtMost_writeValues (values : List Value) :
    LeavesAtMost excess (writeValues values) := by
  induction values with
  | nil => exact leavesAtMost_of_store_eq fun _ => rfl
  | cons value rest ih =>
    exact LeavesAtMost.bind (leavesAtMost_of_store_eq fun _ => rfl) fun _ => ih

theorem leavesAtMost_ofResult (result : Except RuntimeError α) :
    LeavesAtMost excess (ofResult result) :=
  leavesAtMost_of_store_eq fun machine => by rw [ofResult_apply]

theorem leaves_rounds {body : Execution Unit} (leaves : LeavesAtMost excess body) (name : String)
    (stop step : Value) (limit : Nat) {value : Value} {machine : Machine}
    (same : machine.store.Same (base.push name value)) :
    Leaves base (fun other => excess other + if name = other then 1 else 0)
      (rounds name stop step body limit machine) := by
  refine rounds_rule leaves.restores ?away ?kept ?broken same
  case away => exact fun result after same => leaves_of_same same result
  case kept =>
    intro halt counter after same other
    obtain ⟨top, found, length⟩ := Store.stack_of_same_push same other
    exact ⟨top, found, by dsimp only; omega⟩
  case broken =>
    intro counter before halt after same ran other
    have left := leaves before
    rw [ran] at left
    obtain ⟨above, foundAbove, bound⟩ := left other
    obtain ⟨top, found, length⟩ := Store.stack_of_same_push same other
    refine ⟨above ++ top, by rw [foundAbove, found, List.append_assoc], ?_⟩
    dsimp only
    rw [List.length_append]
    omega

theorem leavesAtMost_loop {body : Execution Unit} (leaves : LeavesAtMost excess body) (limit : Nat)
    (head : LoopHead) :
    LeavesAtMost (fun other => excess other + if head.variableName = other then 1 else 0)
      (loop limit head body) := by
  refine (leavesAtMost_ofResult _).bind fun start => (leavesAtMost_ofResult _).bind fun stop => ?_
  refine (leavesAtMost_ofResult _).bind fun step => fun machine => ?_
  rw [bind_apply, pushVariable_apply]
  exact leaves_rounds leaves _ stop step limit (Store.Same.refl _)

def orStop (halt : Halt) (action : Execution α) : Execution α := fun machine =>
  ((action machine).1.mapError fun _ => halt, (action machine).2)

/-- The rounds of a loop, except that they stop with `missing` where the stack of the variable
turns out to be empty. -/
def roundsOr (missing : Halt) (name : String) (stop step : Value) (body : Execution Unit)
    (limit : Nat) : Execution Unit := do
  let current ← (peekVariable name).orStop missing
  if (← ofResult (current.compare stop)) = .gt then
    discard ((popVariable name).orStop missing)
  else
    match limit with
    | 0 => throw .unfinished
    | limit + 1 =>
      body
      let counter ← (popVariable name).orStop missing
      match counter.add step with
      | .error (.overflow _) => return ()
      | .error fault => throw (.failed fault)
      | .ok next =>
        let order ← ofResult (next.compare stop)
        pushVariable name next
        if order = .gt then
          discard ((popVariable name).orStop missing)
        else
          roundsOr missing name stop step body limit

def loopOr (missing : Halt) (limit : Nat) (head : LoopHead) (body : Execution Unit) :
    Execution Unit := do
  let start ← ofResult (loopOperand head.start)
  let stop ← ofResult (loopOperand head.stop)
  let step ← ofResult (head.step.elim (.ok (.integer 1)) loopOperand)
  pushVariable head.variableName start
  roundsOr missing head.variableName stop step body limit

theorem bind_congr_at {first other : Execution α} {next later : α → Execution β}
    {machine : Machine} (start : first machine = other machine)
    (goesOn : ∀ value after, other machine = (.ok value, after) →
      next value after = later value after) :
    (first >>= next) machine = (other >>= later) machine := by
  rw [bind_apply, bind_apply, start]
  rcases ran : other machine with ⟨_ | value, after⟩
  next => rfl
  next => exact goesOn value after ran

theorem orStop_of_ok {action : Execution α} {machine after : Machine} {value : α}
    (ran : action machine = (.ok value, after)) (halt : Halt) :
    action.orStop halt machine = action machine := by
  rw [orStop, ran]
  rfl

theorem orStop_popVariable {name : String} {value : Value} {machine : Machine}
    (same : machine.store.Same (base.push name value)) (missing : Halt) :
    (popVariable name).orStop missing machine = popVariable name machine := by
  obtain ⟨rest, popped, -⟩ := popVariable_of_same_push same
  exact orStop_of_ok popped missing

theorem orStop_peekVariable {name : String} {value : Value} {machine : Machine}
    (same : machine.store.Same (base.push name value)) (missing : Halt) :
    (peekVariable name).orStop missing machine = peekVariable name machine := by
  have found : peekVariable name machine = (.ok value, machine) := by
    rw [peekVariable_apply, Store.peek_of_same_push same]
    rfl
  exact orStop_of_ok found missing

theorem discard_orStop_popVariable {name : String} {value : Value} {machine : Machine}
    (same : machine.store.Same (base.push name value)) (missing : Halt) :
    (discard ((popVariable name).orStop missing) : Execution Unit) machine =
      (discard (popVariable name) : Execution Unit) machine := by
  rw [discard_eq, discard_eq]
  exact bind_congr_at (orStop_popVariable same missing) fun _ _ _ => rfl

theorem machine_eq_of_ofResult {result : Except RuntimeError α} {machine after : Machine}
    {value : α} (ran : ofResult result machine = (.ok value, after)) : after = machine := by
  rw [ofResult_apply] at ran
  exact (congrArg Prod.snd ran).symm

theorem testOr_congr {name : String} {value stop : Value} {machine : Machine}
    {round other : Execution Unit} (same : machine.store.Same (base.push name value))
    (missing : Halt) (goesOn : round machine = other machine) :
    (do
      let current ← (peekVariable name).orStop missing
      if (← ofResult (current.compare stop)) = .gt then
        discard ((popVariable name).orStop missing)
      else round : Execution Unit) machine =
    (do
      let current ← peekVariable name
      if (← ofResult (current.compare stop)) = .gt then discard (popVariable name)
      else other : Execution Unit) machine := by
  refine bind_congr_at (orStop_peekVariable same missing) fun current tested peeked => ?_
  obtain rfl : tested = machine := machine_eq_of_ofResult peeked
  refine bind_congr_at rfl fun order compared ordered => ?_
  obtain rfl : compared = tested := machine_eq_of_ofResult ordered
  split
  next => exact discard_orStop_popVariable same missing
  next => exact goesOn

theorem roundsOr_eq_rounds {body : Execution Unit} (restores : body.Restores) (missing : Halt)
    (name : String) (stop step : Value) (limit : Nat) {value : Value} {machine : Machine}
    (same : machine.store.Same (base.push name value)) :
    roundsOr missing name stop step body limit machine =
      rounds name stop step body limit machine := by
  induction limit generalizing value machine with
  | zero =>
    rw [roundsOr, rounds]
    exact testOr_congr same missing rfl
  | succ limit ih =>
    rw [roundsOr, rounds]
    refine testOr_congr same missing (bind_congr_at rfl fun done visited ran => ?_)
    have atEnd := (restores.same ran).trans same
    obtain ⟨rest, popped, left⟩ := popVariable_of_same_push atEnd
    refine bind_congr_at (orStop_popVariable atEnd missing) fun counter without found => ?_
    obtain ⟨-, rfl⟩ := Prod.ext_iff.1 (popped.symm.trans found)
    cases counter.add step with
    | error fault => cases fault <;> rfl
    | ok next =>
      refine bind_congr_at rfl fun order compared ordered => ?_
      obtain rfl := machine_eq_of_ofResult ordered
      refine bind_congr_at rfl fun _ again pushedAgain => ?_
      obtain ⟨-, rfl⟩ := Prod.ext_iff.1 ((pushVariable_apply ..).symm.trans pushedAgain)
      have pushed : (rest.push name next).Same (base.push name next) := left.push name next
      split
      next => exact discard_orStop_popVariable pushed missing
      next => exact ih pushed

theorem loopOr_eq_loop {body : Execution Unit} (restores : body.Restores) (missing : Halt)
    (limit : Nat) (head : LoopHead) : loopOr missing limit head body = loop limit head body := by
  funext machine
  refine bind_congr_at rfl fun start _ _ => bind_congr_at rfl fun stop _ _ => ?_
  refine bind_congr_at rfl fun step before _ => bind_congr_at rfl fun _ after pushed => ?_
  obtain ⟨-, rfl⟩ := Prod.ext_iff.1 ((pushVariable_apply ..).symm.trans pushed)
  exact roundsOr_eq_rounds restores missing _ stop step limit (Store.Same.refl _)

end Execution

namespace Node

theorem leavesAtMost_execute_text (limit : Nat) (content : String) (excess : String → Nat) :
    (execute limit (.text content)).LeavesAtMost excess :=
  Execution.leavesAtMost_of_store_eq fun _ => rfl

theorem leavesAtMost_execute_output (limit : Nat) (elements : List Element)
    (excess : String → Nat) : (execute limit (.output elements)).LeavesAtMost excess :=
  (Execution.leavesAtMost_of_store_eq fun _ => rfl).bind Execution.leavesAtMost_writeValues

theorem leavesAtMost_executeAll (limit : Nat) (nodes : List Node) :
    (executeAll limit nodes).LeavesAtMost fun name => nestingAll name nodes := by
  induction nodes using siblings_induction with
  | nil => exact Execution.leavesAtMost_of_store_eq fun _ => rfl
  | text content rest ih =>
    have more (name : String) : nestingAll name rest ≤ nestingAll name (.text content :: rest) :=
      Nat.le_max_right ..
    rw [executeAll]
    refine Execution.LeavesAtMost.bind ?_ fun _ => ih.mono more
    exact leavesAtMost_execute_text limit content _
  | output elements rest ih =>
    have more (name : String) : nestingAll name rest ≤ nestingAll name (.output elements :: rest) :=
      Nat.le_max_right ..
    rw [executeAll]
    refine Execution.LeavesAtMost.bind ?_ fun _ => ih.mono more
    exact leavesAtMost_execute_output limit elements _
  | loop head children rest inside after =>
    have inner := Execution.leavesAtMost_loop inside limit head
    rw [executeAll]
    refine Execution.LeavesAtMost.bind (inner.mono ?_) fun _ => after.mono ?_
    next => exact fun name => Nat.le_max_left ..
    next => exact fun name => Nat.le_max_right ..

theorem executeAll_singleton (limit : Nat) (node : Node) :
    executeAll limit [node] = execute limit node := by
  rw [executeAll, executeAll]
  exact bind_pure_unit

theorem nestingAll_singleton (name : String) (node : Node) :
    nestingAll name [node] = node.nesting name := by
  rw [nestingAll, nestingAll]
  exact Nat.max_zero _

theorem leavesAtMost_execute (limit : Nat) (node : Node) :
    (execute limit node).LeavesAtMost fun name => node.nesting name := by
  have alone := leavesAtMost_executeAll limit [node]
  simpa only [executeAll_singleton, nestingAll_singleton] using alone

end Node

theorem Document.leavesAtMost_executeWithin (limit : Nat) (document : Document) :
    (document.executeWithin limit).LeavesAtMost fun name =>
      Node.nestingAll name document.children :=
  (Node.leavesAtMost_executeAll limit document.children).bind fun _ =>
    Execution.leavesAtMost_of_store_eq fun _ => rfl

/-- A visit that ends well leaves the stack of every name as it found it; one that fails leaves at
most so many values more on it as there are loops over that name inside each other. A loop always
finds its counter: it does the same whatever would stop it if it did not. -/
theorem Node.execute_restores_store (limit : Nat) :
    (∀ node : Node, (execute limit node).LeavesAtMost fun name => node.nesting name) ∧
    (∀ document : Document, (document.executeWithin limit).LeavesAtMost fun name =>
      nestingAll name document.children) ∧
    ∀ missing head children, execute limit (.loop head children) =
      Execution.loopOr missing limit head (executeAll limit children) := by
  refine ⟨leavesAtMost_execute limit, fun document => document.leavesAtMost_executeWithin limit, ?_⟩
  intro missing head children
  have restores := (leavesAtMost_executeAll limit children).restores
  rw [execute, Execution.loopOr_eq_loop restores]

end Stencil
