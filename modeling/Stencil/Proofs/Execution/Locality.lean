import Stencil.Proofs.Execution.Depth

set_option autoImplicit false

namespace Stencil

open Fallible Stateful

namespace Builtin

def callAll : List Builtin → Evaluation Unit
  | [] => pure ()
  | first :: rest => do
    first.call
    callAll rest

-- Calls functions one after the other on the same stack, whether they fail or not, and gives what
-- each of them answered.
def callEach : List Builtin → Frame → List (Except RuntimeError Unit) × Frame
  | [], frame => ([], frame)
  | first :: rest, frame =>
    let (result, after) := first.call frame
    let (results, last) := callEach rest after
    (result :: results, last)

end Builtin

namespace Evaluation

/-- Whether a step does on a stack what it does on the top of that stack alone, unless it fails
there for want of values. -/
def IsLocal (step : Evaluation Unit) : Prop :=
  ∀ top below response top' response',
    (step ⟨top, response⟩ = (.ok (), ⟨top', response'⟩) →
      step ⟨top ++ below, response⟩ = (.ok (), ⟨top' ++ below, response'⟩)) ∧
    ∀ fault, step ⟨top, response⟩ = (.error fault, ⟨top', response'⟩) →
      (∀ consumer, fault ≠ .stackUnderflow consumer) →
      step ⟨top ++ below, response⟩ = (.error fault, ⟨top' ++ below, response'⟩)

theorem HasEffect.isLocal {effect : StackEffect} {step : Evaluation Unit}
    (known : HasEffect effect step) : IsLocal step := by
  intro top below response top' response'
  have extended := known.above ⟨top, response⟩ below
  constructor
  next =>
    intro ran
    rw [ran] at extended
    exact extended (faultsOnly_ok ())
  next =>
    intro fault ran other
    rw [ran] at extended
    exact extended (faultsOnly_error other)

end Evaluation

namespace Builtin

open Evaluation

theorem hasEffect_callAll (calls : List Builtin) :
    HasEffect (.inTurn (calls.map effect)) (callAll calls) := by
  induction calls with
  | nil => exact hasEffect_pure ()
  | cons first rest ih => exact first.hasEffect_call.bind fun _ => ih

theorem callEach_cons (first : Builtin) (rest : List Builtin) (frame : Frame) :
    callEach (first :: rest) frame =
      ((first.call frame).1 :: (callEach rest (first.call frame).2).1,
        (callEach rest (first.call frame).2).2) := rfl

theorem callEach_above (calls : List Builtin) (frame : Frame) (below : List Value)
    (enough : ∀ result ∈ (callEach calls frame).1, Enough result) :
    callEach calls (frame.above below) =
      ((callEach calls frame).1, (callEach calls frame).2.above below) := by
  induction calls generalizing frame with
  | nil => rfl
  | cons first rest ih =>
    rw [callEach_cons, List.forall_mem_cons] at enough
    rw [callEach_cons, callEach_cons, first.hasEffect_call.above frame below enough.1,
      ih _ enough.2]

end Builtin

/-- Elements are evaluated on a stack as they are on its top alone, and so are functions called, be
it up to the first failure or past failures, as long as no value is missing on the top alone. -/
theorem Evaluation.isLocal_elements :
    (∀ store list, IsLocal (elements store list)) ∧
    (∀ calls, IsLocal (Builtin.callAll calls)) ∧
    ∀ calls top below response results top' response',
      Builtin.callEach calls ⟨top, response⟩ = (results, ⟨top', response'⟩) →
      (∀ result ∈ results, ∀ consumer, result ≠ .error (.stackUnderflow consumer)) →
      Builtin.callEach calls ⟨top ++ below, response⟩ = (results, ⟨top' ++ below, response'⟩) := by
  refine ⟨fun store list => (hasEffect_elements store list).isLocal,
    fun calls => (Builtin.hasEffect_callAll calls).isLocal, ?_⟩
  intro calls top below response results top' response' ran enough
  have extended := Builtin.callEach_above calls ⟨top, response⟩ below
  rw [ran] at extended
  refine extended fun result found fault failed consumer missing => ?_
  exact enough result found consumer (by rw [failed, missing])

theorem Evaluation.isLocal_elements_of_typeError :
    let response := Response.fresh true (fun _ => false) {} {} []
    let fault : RuntimeError := .typeError .decfmt (.integer 1)
    Builtin.callAll [.decfmt] ⟨[.integer 1], response⟩ = (.error fault, ⟨[], response⟩) ∧
      (∀ consumer, fault ≠ .stackUnderflow consumer) ∧
      Builtin.callAll [.decfmt] ⟨[.integer 1, .absent], response⟩ =
        (.error fault, ⟨[.absent], response⟩) ∧
      elements {} [.call "swap"] ⟨[.integer 1, .text "a"], response⟩ =
        (.ok (), ⟨[.text "a", .integer 1], response⟩) ∧
      elements {} [.call "swap"] ⟨[.integer 1, .text "a", .absent], response⟩ =
        (.ok (), ⟨[.text "a", .integer 1, .absent], response⟩) ∧
      Builtin.callEach [.decfmt, .pparamDel] ⟨[.integer 1, .text "k"], response⟩ =
        ([.error fault, .ok ()], ⟨[], response.removePersistent "k"⟩) ∧
      Builtin.callEach [.decfmt, .pparamDel] ⟨[.integer 1, .text "k", .absent], response⟩ =
        ([.error fault, .ok ()], ⟨[.absent], response.removePersistent "k"⟩) := by
  intro response fault
  have other : ∀ consumer, fault ≠ .stackUnderflow consumer := nofun
  have failed : Builtin.callAll [.decfmt] ⟨[.integer 1], response⟩ =
      (.error fault, ⟨[], response⟩) := rfl
  have swapped : elements {} [.call "swap"] ⟨[.integer 1, .text "a"], response⟩ =
      (.ok (), ⟨[.text "a", .integer 1], response⟩) := rfl
  have called : Builtin.callEach [.decfmt, .pparamDel] ⟨[.integer 1, .text "k"], response⟩ =
      ([.error fault, .ok ()], ⟨[], response.removePersistent "k"⟩) := rfl
  obtain ⟨onElements, onCalls, onEach⟩ := isLocal_elements
  refine ⟨failed, other, ?_, swapped, ?_, called, ?_⟩
  next => exact (onCalls [.decfmt] _ [.absent] _ _ _).2 fault failed other
  next => exact (onElements {} [.call "swap"] _ [.absent] _ _ _).1 swapped
  next => exact onEach _ _ [.absent] _ _ _ _ called (by simp [fault])

end Stencil
