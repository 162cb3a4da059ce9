import Stencil.Proofs.Execution.Bisimulation
import Stencil.Proofs.Value

set_option autoImplicit false

namespace Stencil

open Fallible Stateful

/-- How many values a step needs on the stack, and how many it leaves in their place. -/
structure StackEffect where
  need : Nat
  result : Nat
  deriving DecidableEq

namespace StackEffect

-- What the second step needs beyond the results of the first comes from below them.
def andThen (first second : StackEffect) : StackEffect :=
  ⟨first.need + (second.need - first.result), second.result + (first.result - second.need)⟩

def inTurn (effects : List StackEffect) : StackEffect :=
  effects.foldr andThen ⟨0, 0⟩

def depthAfter (depth : Nat) (effect : StackEffect) : Nat :=
  depth - effect.need + effect.result

end StackEffect

def Builtin.effect : Builtin → StackEffect
  | sin => ⟨1, 1⟩
  | decfmt => ⟨2, 1⟩
  | dup => ⟨1, 2⟩
  | swap => ⟨2, 2⟩
  | setMimeType => ⟨1, 0⟩
  | paramGet | pparamGet | tparamGet => ⟨2, 1⟩
  | pparamSet | tparamSet => ⟨2, 0⟩
  | pparamDel | tparamDel => ⟨1, 0⟩

def Element.effect : Element → StackEffect
  | .var _ | .text _ | .integer _ | .double _ => ⟨0, 1⟩
  | .operator _ => ⟨2, 1⟩
  -- A function without a name that is known fails on every stack.
  | .call name => (Builtin.ofName? name).elim ⟨0, 0⟩ Builtin.effect

def Frame.above (frame : Frame) (below : List Value) : Frame :=
  { frame with stack := frame.stack ++ below }

variable {α β : Type}

def Enough (result : Except RuntimeError α) : Prop :=
  FaultsOnly (fun fault => ∀ consumer, fault ≠ .stackUnderflow consumer) result

namespace Value

theorem enough_toFloat (value : Value) : Enough value.toFloat := by
  refine (value.yields_toFloat.mono ?_).faultsOnly
  rintro _ ⟨content, rfl⟩
  exact nofun

theorem enough_apply (op : Operator) (left right : Value) : Enough (apply op left right) := by
  refine ((yields_apply op left right).mono ?_).faultsOnly
  rintro _ (⟨content, rfl⟩ | rfl | ⟨-, rfl⟩) <;> exact nofun

end Value

namespace Evaluation

/-- Whether a step has an effect: it does not run out of values if it gets what it needs, it comes
to its end only then, and what is below the values that it looks at stays there unseen. -/
structure HasEffect (effect : StackEffect) (step : Evaluation α) : Prop where
  enough (frame : Frame) : effect.need ≤ frame.stack.length → Enough (step frame).1
  depth {frame after : Frame} {value : α} : step frame = (.ok value, after) →
    effect.need ≤ frame.stack.length ∧
      after.stack.length + effect.need = frame.stack.length + effect.result
  above (frame : Frame) (below : List Value) : Enough (step frame).1 →
    step (frame.above below) = ((step frame).1, (step frame).2.above below)

variable {effect later : StackEffect} {need result : Nat}

theorem hasEffect_pure (value : α) : HasEffect ⟨0, 0⟩ (pure value : Evaluation α) where
  enough _ _ := faultsOnly_ok value
  depth ran := by cases ran; simp
  above _ _ _ := rfl

theorem hasEffect_throw (effect : StackEffect) {fault : RuntimeError}
    (other : ∀ consumer, fault ≠ .stackUnderflow consumer) :
    HasEffect effect (throw fault : Evaluation α) where
  enough _ _ := faultsOnly_error other
  depth := nofun
  above _ _ _ := rfl

theorem hasEffect_ofResult {result : Except RuntimeError α} (enough : Enough result) :
    HasEffect ⟨0, 0⟩ (ofResult result) := by
  cases result with
  | ok value => exact hasEffect_pure value
  | error fault => exact hasEffect_throw _ (enough fault rfl)

theorem hasEffect_push (value : Value) : HasEffect ⟨0, 1⟩ (push value) where
  enough _ _ := faultsOnly_ok ()
  depth ran := by cases ran; simp
  above _ _ _ := rfl

theorem hasEffect_of_top {step : Evaluation α} {count : Nat} (consumer : Consumer)
    (give : Value → α) (leave : Value → List Value) (size : ∀ value, (leave value).length = count)
    (apply : ∀ frame, step frame =
      match frame.stack with
      | [] => (.error (.stackUnderflow consumer), frame)
      | value :: rest => (.ok (give value), { frame with stack := leave value ++ rest })) :
    HasEffect ⟨1, count⟩ step where
  enough frame some := by
    rw [apply]
    cases stack : frame.stack with
    | nil => simp [stack] at some
    | cons value rest => exact faultsOnly_ok _
  depth {frame after value} ran := by
    rw [apply] at ran
    cases stack : frame.stack with
    | nil =>
      rw [stack] at ran
      cases ran
    | cons value rest =>
      rw [stack] at ran
      cases ran
      simp only [List.length_append, size, List.length_cons]
      omega
  above frame below enough := by
    rw [apply] at *
    cases stack : frame.stack with
    | nil =>
      rw [stack] at enough
      exact absurd rfl (enough _ rfl consumer)
    | cons value rest => simp [Frame.above, apply, stack]

theorem hasEffect_pop (consumer : Consumer) : HasEffect ⟨1, 0⟩ (pop consumer) :=
  hasEffect_of_top consumer id (fun _ => []) (fun _ => rfl) (pop_apply consumer)

theorem hasEffect_modifyResponse (change : Response → Response) :
    HasEffect ⟨0, 0⟩ (modify fun frame => { frame with response := change frame.response } :
      Evaluation Unit) where
  enough _ _ := faultsOnly_ok ()
  depth ran := by cases ran; simp
  above _ _ _ := rfl

theorem hasEffect_respond (operation : Response.Operation Unit) :
    HasEffect ⟨0, 0⟩ (respond operation) where
  enough frame _ := by
    rw [respond_apply]
    cases (operation frame.response).1 with
    | ok done => exact faultsOnly_ok done
    | error fault => exact faultsOnly_error (by simp)
  depth ran := by
    rw [respond_apply] at ran
    obtain ⟨-, rfl⟩ := Prod.mk.inj ran
    simp
  above _ _ _ := rfl

theorem hasEffect_readResponse {next : Response → Evaluation α}
    (each : ∀ response, HasEffect effect (next response)) :
    HasEffect effect (get >>= fun frame => next frame.response : Evaluation α) where
  enough frame := (each frame.response).enough frame
  depth {frame _ _} := (each frame.response).depth
  above frame := (each frame.response).above frame

theorem HasEffect.bind {first : Evaluation α} {next : α → Evaluation β}
    (before : HasEffect effect first) (after : ∀ value, HasEffect later (next value)) :
    HasEffect (effect.andThen later) (first >>= next) where
  enough frame some := by
    have enoughFirst := before.enough frame (by simp only [StackEffect.andThen] at some; omega)
    rw [bind_apply]
    rcases ran : first frame with ⟨fault | value, middle⟩
    next => exact faultsOnly_error (enoughFirst fault (by rw [ran]))
    next =>
      have depth := (before.depth ran).2
      simp only [StackEffect.andThen] at some
      exact (after value).enough middle (by omega)
  depth {frame last value} ran := by
    rw [bind_apply] at ran
    rcases ranFirst : first frame with ⟨fault | value, middle⟩
    next =>
      rw [ranFirst] at ran
      cases ran
    next =>
      rw [ranFirst] at ran
      have depth := before.depth ranFirst
      have depthLater := (after value).depth ran
      simp only [StackEffect.andThen]
      omega
  above frame below enough := by
    have enoughFirst : Enough (first frame).1 := by
      rcases ran : first frame with ⟨fault | value, middle⟩
      next => exact faultsOnly_error (enough fault (by rw [bind_apply, ran]))
      next => exact faultsOnly_ok value
    rw [bind_apply] at enough
    rw [bind_apply, bind_apply, before.above frame below enoughFirst]
    rcases ran : first frame with ⟨fault | value, middle⟩
    next => rfl
    next =>
      rw [ran] at enough
      exact (after value).above middle below enough

theorem HasEffect.take {first : Evaluation α} {next : α → Evaluation β}
    (before : HasEffect ⟨1, 0⟩ first) (after : ∀ value, HasEffect ⟨need, result⟩ (next value)) :
    HasEffect ⟨need + 1, result⟩ (first >>= next) := by
  simpa [StackEffect.andThen, Nat.add_comm] using before.bind after

theorem HasEffect.look {first : Evaluation α} {next : α → Evaluation β}
    (before : HasEffect ⟨0, 0⟩ first) (after : ∀ value, HasEffect effect (next value)) :
    HasEffect effect (first >>= next) := by
  simpa [StackEffect.andThen] using before.bind after

end Evaluation

namespace Builtin

open Evaluation

theorem hasEffect_popText (builtin : Builtin) : HasEffect ⟨1, 0⟩ (popText builtin) := by
  refine (hasEffect_pop _).take fun value => ?_
  cases value with
  | text content => exact hasEffect_pure content
  | _ => exact hasEffect_throw _ (by simp)

theorem hasEffect_callSin : HasEffect ⟨1, 1⟩ callSin :=
  (hasEffect_pop _).take fun value =>
    (hasEffect_ofResult value.enough_toFloat).look fun _ => hasEffect_push _

theorem hasEffect_callDecfmt : HasEffect ⟨2, 1⟩ callDecfmt := by
  refine (hasEffect_popText _).take fun pattern => (hasEffect_pop _).take fun value => ?_
  refine (hasEffect_ofResult value.enough_toFloat).look fun number => ?_
  split
  next => exact hasEffect_push _
  next => exact hasEffect_throw _ (by simp)

-- It looks at its argument without taking it off, and so is no chain of the steps above.
theorem hasEffect_callDup : HasEffect ⟨1, 2⟩ callDup := by
  refine hasEffect_of_top (.builtin dup) (fun _ => ()) (fun value => [value, value])
    (fun _ => rfl) fun frame => ?_
  rw [callDup, get_bind_apply]
  cases stack : frame.stack with
  | nil => rfl
  | cons value rest =>
    change (Except.ok (), { frame with stack := value :: frame.stack }) = _
    rw [stack]
    rfl

theorem hasEffect_callSwap : HasEffect ⟨2, 2⟩ callSwap :=
  (hasEffect_pop _).take fun first => (hasEffect_pop _).take fun _ =>
    (hasEffect_push first).bind fun _ => hasEffect_push _

theorem hasEffect_callSetMimeType : HasEffect ⟨1, 0⟩ callSetMimeType :=
  (hasEffect_popText _).take fun _ => hasEffect_respond _

theorem hasEffect_callGet (builtin : Builtin) (scope : Response → Scope) :
    HasEffect ⟨2, 1⟩ (callGet builtin scope) :=
  (hasEffect_pop _).take fun default => (hasEffect_popText _).take fun name =>
    hasEffect_readResponse fun response =>
      hasEffect_push (((scope response).get? name).elim default .text)

theorem hasEffect_callSet (builtin : Builtin) (change : String → String → Response → Response) :
    HasEffect ⟨2, 0⟩ (callSet builtin change) :=
  (hasEffect_popText _).take fun _ => (hasEffect_pop _).take fun _ => hasEffect_modifyResponse _

theorem hasEffect_callDelete (builtin : Builtin) (change : String → Response → Response) :
    HasEffect ⟨1, 0⟩ (callDelete builtin change) :=
  (hasEffect_popText _).take fun _ => hasEffect_modifyResponse _

theorem hasEffect_call (builtin : Builtin) : HasEffect builtin.effect builtin.call := by
  cases builtin with
  | sin => exact hasEffect_callSin
  | decfmt => exact hasEffect_callDecfmt
  | dup => exact hasEffect_callDup
  | swap => exact hasEffect_callSwap
  | setMimeType => exact hasEffect_callSetMimeType
  | paramGet | pparamGet | tparamGet => exact hasEffect_callGet _ _
  | pparamSet | tparamSet => exact hasEffect_callSet _ _
  | pparamDel | tparamDel => exact hasEffect_callDelete _ _

end Builtin

namespace Evaluation

theorem hasEffect_element (store : Store) (one : Element) :
    HasEffect one.effect (element store one) := by
  cases one with
  | var name =>
    have found : Enough (store.peek name) := by
      rw [Store.peek]
      cases store.stack name <;> simp [Enough, FaultsOnly]
    exact (hasEffect_ofResult found).look fun _ => hasEffect_push _
  | operator op =>
    exact (hasEffect_pop _).take fun first => (hasEffect_pop _).take fun second =>
      (hasEffect_ofResult (Value.enough_apply op first second)).look fun _ => hasEffect_push _
  | call name =>
    rw [element, Element.effect]
    cases Builtin.ofName? name with
    | some builtin => exact builtin.hasEffect_call
    | none => exact hasEffect_throw _ (by simp)
  | text content => exact hasEffect_push _
  | integer n => exact hasEffect_push _
  | double x => exact hasEffect_push _

end Evaluation

end Stencil
