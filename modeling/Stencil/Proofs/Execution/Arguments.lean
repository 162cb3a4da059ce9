import Stencil.Proofs.Execution.Bisimulation

set_option autoImplicit false

namespace Stencil.Builtin

open Stateful Evaluation

theorem popText_apply (builtin : Builtin) (frame : Frame) :
    popText builtin frame =
      match frame.stack with
      | [] => (.error (.stackUnderflow (.builtin builtin)), frame)
      | .text content :: rest => (.ok content, { frame with stack := rest })
      | found :: rest => (.error (.typeError builtin found), { frame with stack := rest }) := by
  rw [popText, bind_apply, pop_apply]
  cases frame.stack with
  | nil => rfl
  | cons value rest => cases value <;> rfl

theorem callGet_apply (builtin : Builtin) (scope : Response → Scope) (default : Value)
    (name : String) (rest : List Value) (response : Response) :
    callGet builtin scope ⟨default :: .text name :: rest, response⟩ =
      (.ok (), ⟨((scope response).get? name).elim default .text :: rest, response⟩) := rfl

theorem callSet_apply (builtin : Builtin) (change : String → String → Response → Response)
    (stack : List Value) (response : Response) :
    callSet builtin change ⟨stack, response⟩ =
      match stack with
      | [] => (.error (.stackUnderflow (.builtin builtin)), ⟨[], response⟩)
      | [.text _] => (.error (.stackUnderflow (.builtin builtin)), ⟨[], response⟩)
      | .text name :: value :: rest => (.ok (), ⟨rest, change name value.display response⟩)
      | found :: rest => (.error (.typeError builtin found), ⟨rest, response⟩) := by
  rw [callSet, bind_apply, popText_apply]
  cases stack with
  | nil => rfl
  | cons top below =>
    cases top with
    | text name => cases below <;> rfl
    | _ => rfl

theorem callDelete_apply (builtin : Builtin) (change : String → Response → Response)
    (stack : List Value) (response : Response) :
    callDelete builtin change ⟨stack, response⟩ =
      match stack with
      | [] => (.error (.stackUnderflow (.builtin builtin)), ⟨[], response⟩)
      | .text name :: rest => (.ok (), ⟨rest, change name response⟩)
      | found :: rest => (.error (.typeError builtin found), ⟨rest, response⟩) := by
  rw [callDelete, bind_apply, popText_apply]
  cases stack with
  | nil => rfl
  | cons top below => cases top <;> rfl

end Stencil.Builtin
