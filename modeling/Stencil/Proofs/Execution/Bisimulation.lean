import Stencil.Execution
import Stencil.Proofs.Stateful

set_option autoImplicit false

namespace Stencil

open Stateful

/-- Relations between responses that are kept by all that an evaluation can do to a response, which
writes nothing, and that let it read the same parameters from both. -/
structure Response.SilentBisimulation (related : Response → Response → Prop) : Prop where
  parameters {a b} : related a b → a.parameters = b.parameters
  persistent {a b} : related a b → a.persistent = b.persistent
  temporary {a b} : related a b → a.temporary = b.temporary
  setPersistent {a b} (name value : String) : related a b →
    related (a.setPersistent name value) (b.setPersistent name value)
  removePersistent {a b} (name : String) : related a b →
    related (a.removePersistent name) (b.removePersistent name)
  setTemporary {a b} (name value : String) : related a b →
    related (a.setTemporary name value) (b.setTemporary name value)
  removeTemporary {a b} (name : String) : related a b →
    related (a.removeTemporary name) (b.removeTemporary name)
  setMimeType (mimeType : String) : Keeps related (Response.setMimeType mimeType)

structure Response.Bisimulation (related : Response → Response → Prop) : Prop
    extends Response.SilentBisimulation related where
  writeText (text : String) : Keeps related (Response.writeText text)
  writeBytes (data : List UInt8) : Keeps related (Response.writeBytes data)

variable {related : Response → Response → Prop} {α : Type}

structure Frame.Alike (related : Response → Response → Prop) (a b : Frame) : Prop where
  stack : a.stack = b.stack
  response : related a.response b.response

namespace Evaluation

theorem keeps_push (value : Value) : Keeps (Frame.Alike related) (push value) :=
  keeps_modify fun _ _ same => ⟨congrArg (value :: ·) same.stack, same.response⟩

theorem pop_apply (consumer : Consumer) (frame : Frame) :
    pop consumer frame =
      match frame.stack with
      | [] => (.error (.stackUnderflow consumer), frame)
      | value :: rest => (.ok value, { frame with stack := rest }) := by
  rw [pop, get_bind_apply]
  cases frame.stack <;> rfl

theorem respond_apply (operation : Response.Operation Unit) (frame : Frame) :
    respond operation frame =
      ((operation frame.response).1.mapError RuntimeError.response,
        { frame with response := (operation frame.response).2 }) := rfl

theorem keeps_pop (consumer : Consumer) : Keeps (Frame.Alike related) (pop consumer) := by
  intro a b same
  rw [pop_apply, pop_apply, same.stack]
  cases b.stack with
  | nil => exact ⟨rfl, same⟩
  | cons value rest => exact ⟨rfl, rfl, same.response⟩

theorem keeps_ofResult (result : Except RuntimeError α) :
    Keeps (Frame.Alike related) (ofResult result) :=
  keeps_liftExcept result

theorem keeps_respond {operation : Response.Operation Unit} (kept : Keeps related operation) :
    Keeps (Frame.Alike related) (respond operation) := by
  intro a b same
  obtain ⟨result, left⟩ := kept _ _ same.response
  rw [respond_apply, respond_apply, result]
  exact ⟨rfl, same.stack, left⟩

end Evaluation

namespace Builtin

open Evaluation

theorem keeps_popText (builtin : Builtin) : Keeps (Frame.Alike related) (popText builtin) := by
  refine (keeps_pop _).bind fun value => ?_
  cases value with
  | text content => exact keeps_pure content
  | _ => exact keeps_throw _

theorem keeps_callSin : Keeps (Frame.Alike related) callSin :=
  (keeps_pop _).bind fun _ => (keeps_ofResult _).bind fun _ => keeps_push _

theorem keeps_callDecfmt : Keeps (Frame.Alike related) callDecfmt := by
  refine (keeps_popText _).bind fun pattern => (keeps_pop _).bind fun value => ?_
  refine (keeps_ofResult _).bind fun number => ?_
  split
  next => exact keeps_push _
  next => exact keeps_throw _

theorem keeps_callDup : Keeps (Frame.Alike related) callDup := by
  intro a b same
  rw [callDup, get_bind_apply, get_bind_apply, same.stack]
  cases b.stack with
  | nil => exact keeps_throw _ a b same
  | cons value rest => exact keeps_push value a b same

theorem keeps_callSwap : Keeps (Frame.Alike related) callSwap :=
  (keeps_pop _).bind fun first => (keeps_pop _).bind fun _ =>
    (keeps_push first).bind fun _ => keeps_push _

theorem keeps_callSetMimeType (bisimulation : Response.SilentBisimulation related) :
    Keeps (Frame.Alike related) callSetMimeType :=
  (keeps_popText _).bind fun mimeType => keeps_respond (bisimulation.setMimeType mimeType)

theorem keeps_callGet (builtin : Builtin) {scope : Response → Scope}
    (same : ∀ a b, related a b → scope a = scope b) :
    Keeps (Frame.Alike related) (callGet builtin scope) := by
  refine (keeps_pop _).bind fun default => (keeps_popText _).bind fun name => ?_
  intro a b alike
  rw [get_bind_apply, get_bind_apply, same _ _ alike.response]
  exact keeps_push _ a b alike

theorem keeps_callSet (builtin : Builtin) {change : String → String → Response → Response}
    (kept : ∀ name value a b, related a b → related (change name value a) (change name value b)) :
    Keeps (Frame.Alike related) (callSet builtin change) := by
  refine (keeps_popText _).bind fun name => (keeps_pop _).bind fun value => ?_
  exact keeps_modify fun a b same => ⟨same.stack, kept _ _ _ _ same.response⟩

theorem keeps_callDelete (builtin : Builtin) {change : String → Response → Response}
    (kept : ∀ name a b, related a b → related (change name a) (change name b)) :
    Keeps (Frame.Alike related) (callDelete builtin change) :=
  (keeps_popText _).bind fun _ =>
    keeps_modify fun _ _ same => ⟨same.stack, kept _ _ _ same.response⟩

theorem keeps_call (bisimulation : Response.SilentBisimulation related) (builtin : Builtin) :
    Keeps (Frame.Alike related) builtin.call := by
  cases builtin with
  | sin => exact keeps_callSin
  | decfmt => exact keeps_callDecfmt
  | dup => exact keeps_callDup
  | swap => exact keeps_callSwap
  | setMimeType => exact keeps_callSetMimeType bisimulation
  | paramGet => exact keeps_callGet _ fun _ _ => bisimulation.parameters
  | pparamGet => exact keeps_callGet _ fun _ _ => bisimulation.persistent
  | pparamSet => exact keeps_callSet _ fun name value _ _ => bisimulation.setPersistent name value
  | pparamDel => exact keeps_callDelete _ fun name _ _ => bisimulation.removePersistent name
  | tparamGet => exact keeps_callGet _ fun _ _ => bisimulation.temporary
  | tparamSet => exact keeps_callSet _ fun name value _ _ => bisimulation.setTemporary name value
  | tparamDel => exact keeps_callDelete _ fun name _ _ => bisimulation.removeTemporary name

end Builtin

namespace Evaluation

theorem keeps_element (bisimulation : Response.SilentBisimulation related) (store : Store)
    (one : Element) : Keeps (Frame.Alike related) (element store one) := by
  cases one with
  | var name => exact (keeps_ofResult _).bind fun _ => keeps_push _
  | call name =>
    rw [element]
    split
    next builtin _ => exact Builtin.keeps_call bisimulation builtin
    next => exact keeps_throw _
  | operator op =>
    exact (keeps_pop _).bind fun _ => (keeps_pop _).bind fun _ =>
      (keeps_ofResult _).bind fun _ => keeps_push _
  | text content => exact keeps_push _
  | integer n => exact keeps_push _
  | double x => exact keeps_push _

theorem keeps_elements (bisimulation : Response.SilentBisimulation related) (store : Store)
    (list : List Element) : Keeps (Frame.Alike related) (elements store list) := by
  induction list with
  | nil => exact keeps_pure ()
  | cons first rest ih =>
    rw [elements]
    exact (keeps_element bisimulation store first).bind fun _ => ih

end Evaluation

end Stencil
