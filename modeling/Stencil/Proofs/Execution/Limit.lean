import Stencil.Proofs.Execution.Loop
import Stencil.Rendering

set_option autoImplicit false

namespace Stencil

variable {limit more : Nat}

namespace Execution

variable {α β : Type}

def Extends (longer shorter : Execution α) : Prop :=
  ∀ machine, (shorter machine).1 ≠ .error .unfinished → longer machine = shorter machine

theorem Extends.refl (action : Execution α) : Extends action action :=
  fun _ _ => rfl

theorem extends_unfinished (action : Execution α) : Extends action (throw .unfinished) :=
  fun _ ends => absurd rfl ends

theorem Extends.bind {longer shorter : Execution α} {next next' : α → Execution β}
    (first : Extends longer shorter) (later : ∀ value, Extends (next' value) (next value)) :
    Extends (longer >>= next') (shorter >>= next) := by
  intro machine ends
  have begun := first machine
  rw [bind_apply] at ends
  rw [bind_apply, bind_apply]
  rcases ran : shorter machine with ⟨halt | value, after⟩ <;> rw [ran] at begun ends
  next =>
    have same := begun fun unfinished => ends (by cases unfinished; rfl)
    rw [same]
  next =>
    rw [begun nofun]
    exact later value after ends

variable {name : String} {stop step : Value} {body body' : Execution Unit}

theorem extends_rounds (inside : Extends body' body) (le : limit ≤ more) :
    Extends (rounds name stop step body' more) (rounds name stop step body limit) := by
  induction limit generalizing more with
  | zero =>
    cases more with
    | zero =>
      rw [rounds_zero, rounds_zero]
      exact .refl _
    | succ more =>
      rw [rounds_zero, rounds_succ]
      refine (Extends.refl _).bind fun goesOn => ?_
      cases goesOn with
      | true => exact extends_unfinished _
      | false => exact .refl _
  | succ limit ih =>
    obtain ⟨more, rfl⟩ := Nat.exists_eq_add_one_of_ne_zero (Nat.ne_zero_of_lt le)
    rw [rounds_succ, rounds_succ]
    refine (Extends.refl _).bind fun goesOn => ?_
    cases goesOn with
    | false => exact .refl _
    | true =>
      refine inside.bind fun _ => (Extends.refl _).bind fun again => ?_
      cases again with
      | false => exact .refl _
      | true => exact ih (Nat.le_of_succ_le_succ le)

theorem extends_loop (inside : Extends body' body) (le : limit ≤ more) (head : LoopHead) :
    Extends (loop more head body') (loop limit head body) := by
  refine (Extends.refl _).bind fun start => (Extends.refl _).bind fun stop => ?_
  refine (Extends.refl _).bind fun step => (Extends.refl _).bind fun _ => ?_
  exact extends_rounds inside le

end Execution

open Execution (Extends extends_loop)

theorem Node.extends_executeAll (le : limit ≤ more) (nodes : List Node) :
    Extends (executeAll more nodes) (executeAll limit nodes) := by
  induction nodes using siblings_induction with
  | nil => exact .refl _
  | text content rest ih =>
    rw [executeAll, executeAll, execute, execute]
    exact (Extends.refl _).bind fun _ => ih
  | output elements rest ih =>
    rw [executeAll, executeAll, execute, execute]
    exact (Extends.refl _).bind fun _ => ih
  | loop head children rest inside after =>
    rw [executeAll, executeAll, execute, execute]
    exact (extends_loop inside le head).bind fun _ => after

/-- An execution that ends within some number of rounds does the same within every larger one. -/
theorem Document.extends_executeWithin (le : limit ≤ more) (document : Document) :
    Extends (document.executeWithin more) (document.executeWithin limit) :=
  (Node.extends_executeAll le document.children).bind fun _ => .refl _

theorem Execution.settled?_eq_none_iff {α : Type} {result : Except Halt α} :
    settled? result = none ↔ result = .error .unfinished := by
  rcases result with (fault | _) | value <;> simp [settled?]

theorem Execution.eq_ok_of_settled {α : Type} {result : Except Halt α} {value : α}
    (settled : settled? result = some (.ok value)) : result = .ok value := by
  rcases result with (fault | _) | other <;> simp_all [settled?]

theorem Document.renderWithin_eq_none_iff {document : Document} {parameters persistent : Scope}
    {headers : Bool} :
    document.renderWithin limit parameters persistent headers = none ↔
      (document.executeWithin limit
        { response := { parameters, persistent, emitsHeader := headers } }).1 =
        .error .unfinished :=
  Option.map_eq_none_iff.trans Execution.settled?_eq_none_iff

theorem Document.renderWithin_mono (le : limit ≤ more) {document : Document}
    {parameters persistent : Scope} {headers : Bool} {rendering : Rendering}
    (rendered : document.renderWithin limit parameters persistent headers = some rendering) :
    document.renderWithin more parameters persistent headers = some rendering := by
  have ends : document.renderWithin limit parameters persistent headers ≠ none := by simp [rendered]
  rw [Ne, renderWithin_eq_none_iff] at ends
  rw [← rendered, renderWithin, renderWithin, document.extends_executeWithin le _ ends]

theorem Effect.countFrom_of_still {visit : Value → Effect} {value last step : Value}
    {order : Ordering} (compared : value.compare last = .ok order) (notPast : order ≠ .gt)
    (still : value.add step = .ok value)
    (visits : ∀ response, (visit value response).1 = .ok ()) (limit : Nat) (response : Response) :
    (countFrom visit last step limit value response).1 = .error .unfinished := by
  induction limit generalizing response with
  | zero =>
    rw [countFrom, compared]
    cases order <;> first | rfl | exact absurd rfl notPast
  | succ limit ih =>
    have round : countFrom visit last step (limit + 1) value =
        (visit value).andThen (countFrom visit last step limit value) := by
      rw [countFrom, compared, still]
      cases order <;> first | rfl | exact absurd rfl notPast
    have visited := visits response
    rw [round, andThen]
    rcases ran : visit value response with ⟨_ | _, after⟩
    next =>
      rw [ran] at visited
      cases visited
    next => exact ih after

/-- A loop whose counter stays what it is comes to no end in any number of rounds, unless a visit of
its children fails. -/
theorem Node.execute_of_still {head : LoopHead} {children : List Node} {store : Store}
    {value last step : Value} {order : Ordering}
    (startIs : Execution.loopOperand head.start = .ok value)
    (lastIs : Execution.loopOperand head.stop = .ok last)
    (stepIs : head.step.elim (.ok (.integer 1)) Execution.loopOperand = .ok step)
    (compared : value.compare last = .ok order) (notPast : order ≠ .gt)
    (still : value.add step = .ok value)
    (visits : ∀ response, (visit limit head children store value response).1 = .ok ())
    (response : Response) :
    (execute limit (.loop head children) ⟨store, response⟩).1 = .error .unfinished := by
  have effect := congrFun (effect_execute_loop limit head children store) response
  rw [Effect.loop, startIs, lastIs, stepIs] at effect
  calc
    (execute limit (.loop head children) ⟨store, response⟩).1 =
        (Execution.effect (execute limit (.loop head children)) store response).1 := rfl
    _ = _ := congrArg Prod.fst effect
    _ = .error .unfinished := Effect.countFrom_of_still compared notPast still visits limit response

theorem Document.renderWithin_of_still {head : LoopHead} {children rest : List Node}
    {value last step : Value} {order : Ordering}
    (startIs : Execution.loopOperand head.start = .ok value)
    (lastIs : Execution.loopOperand head.stop = .ok last)
    (stepIs : head.step.elim (.ok (.integer 1)) Execution.loopOperand = .ok step)
    (compared : value.compare last = .ok order) (notPast : order ≠ .gt)
    (still : value.add step = .ok value)
    (visits : ∀ response, (Node.visit limit head children {} value response).1 = .ok ())
    (parameters persistent : Scope) (headers : Bool) :
    (Document.mk (.loop head children :: rest)).renderWithin limit parameters persistent headers =
      none := by
  rw [renderWithin_eq_none_iff, executeWithin, Node.executeAll, Execution.bind_apply,
    Execution.bind_apply]
  have endless := Node.execute_of_still startIs lastIs stepIs compared notPast still visits
    { parameters, persistent, emitsHeader := headers }
  rcases ran : Node.execute limit (.loop head children)
      { response := { parameters, persistent, emitsHeader := headers } } with ⟨halt | _, after⟩
  next =>
    rw [ran] at endless
    exact endless
  next =>
    rw [ran] at endless
    cases endless

end Stencil
