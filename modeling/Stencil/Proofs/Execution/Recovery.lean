import Stencil.Proofs.Execution.Bisimulation
import Stencil.Proofs.Response.Step

set_option autoImplicit false

namespace Stencil

open Stateful

-- Whether of a frame nothing is gone but values on top of its stack, and at most so many.
structure Frame.Reduced (limit : Nat) (before after : Frame) : Prop where
  response : after.response = before.response
  stack : ∃ taken, before.stack = taken ++ after.stack ∧ taken.length ≤ limit

namespace Frame.Reduced

variable {limit further : Nat} {before between after : Frame}

theorem refl (frame : Frame) : Reduced 0 frame frame :=
  ⟨rfl, [], rfl, Nat.le_refl 0⟩

theorem trans (first : Reduced limit before between) (second : Reduced further between after) :
    Reduced (further + limit) before after := by
  obtain ⟨same, taken, stack, few⟩ := first
  obtain ⟨same', taken', stack', few'⟩ := second
  refine ⟨same'.trans same, taken ++ taken', ?_, ?_⟩
  next => rw [stack, stack', List.append_assoc]
  next =>
    rw [List.length_append, Nat.add_comm]
    exact Nat.add_le_add few' few

theorem mono (reduced : Reduced limit before after) (more : limit ≤ further) :
    Reduced further before after := by
  obtain ⟨same, taken, stack, few⟩ := reduced
  exact ⟨same, taken, stack, Nat.le_trans few more⟩

end Frame.Reduced

namespace Evaluation

variable {α β : Type} {limit further : Nat}

def OnlyTakes (limit : Nat) (step : Evaluation α) : Prop :=
  ∀ frame, Frame.Reduced limit frame (step frame).2

def FailsCleanly (limit : Nat) (step : Evaluation α) : Prop :=
  ∀ frame fault after, step frame = (.error fault, after) → Frame.Reduced limit frame after

theorem onlyTakes_pure (value : α) : OnlyTakes 0 (pure value) :=
  fun frame => .refl frame

theorem onlyTakes_throw (fault : RuntimeError) : OnlyTakes 0 (throw fault : Evaluation α) :=
  fun frame => .refl frame

theorem onlyTakes_ofResult (result : Except RuntimeError α) : OnlyTakes 0 (ofResult result) := by
  cases result with
  | ok value => exact onlyTakes_pure value
  | error fault => exact onlyTakes_throw fault

theorem onlyTakes_pop (consumer : Consumer) : OnlyTakes 1 (pop consumer) := by
  intro frame
  rw [pop_apply]
  cases stack : frame.stack with
  | nil => exact (Frame.Reduced.refl frame).mono (Nat.zero_le 1)
  | cons value rest => exact ⟨rfl, [value], stack, Nat.le_refl 1⟩

theorem OnlyTakes.bind {first : Evaluation α} {next : α → Evaluation β}
    (before : OnlyTakes limit first) (after : ∀ value, OnlyTakes further (next value)) :
    OnlyTakes (further + limit) (first >>= next) := by
  intro frame
  have reduced := before frame
  rw [bind_apply]
  rcases ran : first frame with ⟨fault | value, middle⟩ <;> rw [ran] at reduced
  next => exact reduced.mono (Nat.le_add_left limit further)
  next => exact reduced.trans (after value middle)

theorem OnlyTakes.failsCleanly {step : Evaluation α} (takes : OnlyTakes limit step) :
    FailsCleanly limit step := by
  intro frame fault after failed
  have reduced := takes frame
  rwa [failed] at reduced

theorem failsCleanly_of_ok {step : Evaluation α} (value : α)
    (succeeds : ∀ frame, (step frame).1 = .ok value) : FailsCleanly 0 step := by
  intro frame fault after failed
  have result := succeeds frame
  rw [failed] at result
  cases result

theorem failsCleanly_push (value : Value) : FailsCleanly 0 (push value) :=
  failsCleanly_of_ok () fun _ => rfl

-- What comes before may not have changed anything, for it is not taken back if the rest fails.
theorem OnlyTakes.then {first : Evaluation α} {next : α → Evaluation β}
    (before : OnlyTakes limit first) (after : ∀ value, FailsCleanly further (next value)) :
    FailsCleanly (further + limit) (first >>= next) := by
  intro frame fault last failed
  have reduced := before frame
  rw [bind_apply] at failed
  rcases ran : first frame with ⟨fault' | value, middle⟩ <;> rw [ran] at failed reduced
  next =>
    cases failed
    exact reduced.mono (Nat.le_add_left limit further)
  next => exact reduced.trans (after value middle fault last failed)

theorem FailsCleanly.mono {step : Evaluation α} (clean : FailsCleanly limit step)
    (more : limit ≤ further) : FailsCleanly further step :=
  fun frame fault after failed => (clean frame fault after failed).mono more

theorem failsCleanly_setMimeType (mimeType : String) :
    FailsCleanly 0 (respond (Response.setMimeType mimeType)) := by
  intro frame fault after failed
  rw [respond_apply] at failed
  rcases Response.setMimeType_cases mimeType frame.response with ⟨-, ran⟩ | ⟨-, ran⟩ <;>
    rw [ran] at failed <;> cases failed
  exact .refl frame

end Evaluation

namespace Builtin

open Evaluation

theorem onlyTakes_popText (builtin : Builtin) : OnlyTakes 1 (popText builtin) := by
  refine (onlyTakes_pop _).bind fun value => ?_
  cases value with
  | text content => exact onlyTakes_pure content
  | _ => exact onlyTakes_throw _

theorem failsCleanly_callSin : FailsCleanly 1 callSin :=
  (onlyTakes_pop _).then fun value =>
    (onlyTakes_ofResult value.toFloat).then fun _ => failsCleanly_push _

theorem failsCleanly_callDecfmt : FailsCleanly 2 callDecfmt := by
  refine (onlyTakes_popText _).then fun pattern => ?_
  refine (onlyTakes_pop _).then fun value => ?_
  refine (onlyTakes_ofResult value.toFloat).then fun number => ?_
  split
  next => exact failsCleanly_push _
  next => exact (onlyTakes_throw _).failsCleanly

theorem failsCleanly_callDup : FailsCleanly 0 callDup := by
  intro frame fault after failed
  rw [callDup, get_bind_apply] at failed
  cases stack : frame.stack <;> rw [stack] at failed <;> cases failed
  exact .refl frame

theorem failsCleanly_callSwap : FailsCleanly 2 callSwap :=
  (onlyTakes_pop _).then fun _ => (onlyTakes_pop _).then fun _ =>
    failsCleanly_of_ok () fun _ => rfl

theorem failsCleanly_callSetMimeType : FailsCleanly 1 callSetMimeType :=
  (onlyTakes_popText _).then fun mimeType => failsCleanly_setMimeType mimeType

theorem failsCleanly_callGet (builtin : Builtin) (scope : Response → Scope) :
    FailsCleanly 2 (callGet builtin scope) :=
  (onlyTakes_pop _).then fun _ => (onlyTakes_popText _).then fun _ =>
    failsCleanly_of_ok () fun _ => rfl

theorem failsCleanly_callSet (builtin : Builtin) (change : String → String → Response → Response) :
    FailsCleanly 2 (callSet builtin change) :=
  (onlyTakes_popText _).then fun _ => (onlyTakes_pop _).then fun _ =>
    failsCleanly_of_ok () fun _ => rfl

theorem failsCleanly_callDelete (builtin : Builtin) (change : String → Response → Response) :
    FailsCleanly 1 (callDelete builtin change) :=
  (onlyTakes_popText _).then fun _ => failsCleanly_of_ok () fun _ => rfl

theorem failsCleanly_call (builtin : Builtin) : FailsCleanly 2 builtin.call := by
  cases builtin with
  | sin => exact failsCleanly_callSin.mono (by decide)
  | decfmt => exact failsCleanly_callDecfmt
  | dup => exact failsCleanly_callDup.mono (by decide)
  | swap => exact failsCleanly_callSwap
  | setMimeType => exact failsCleanly_callSetMimeType.mono (by decide)
  | paramGet | pparamGet | tparamGet => exact failsCleanly_callGet _ _
  | pparamSet | tparamSet => exact failsCleanly_callSet _ _
  | pparamDel | tparamDel => exact (failsCleanly_callDelete _ _).mono (by decide)

end Builtin

-- A call in a row of calls on one stack, to which anything may be done before it.
structure Call where
  prepare : List Value → List Value := id
  builtin : Builtin

structure Call.Made where
  builtin : Builtin
  met : List Value
  answer : Except RuntimeError Unit

namespace Call

def makeAll : List Call → Frame → List Made × Frame
  | [], frame => ([], frame)
  | call :: later, frame =>
    let met := call.prepare frame.stack
    let (answer, after) := call.builtin.call { frame with stack := met }
    let (made, last) := makeAll later after
    (⟨call.builtin, met, answer⟩ :: made, last)

def Made.succeeded (made : Made) : Bool :=
  made.answer.isOk

-- Makes a call again on another response, and has no response if it fails there.
def Made.again (response : Response) (made : Made) : Except RuntimeError Response :=
  match made.builtin.call ⟨made.met, response⟩ with
  | (.ok (), after) => .ok after.response
  | (.error fault, _) => .error fault

variable (call : Call) (later : List Call) (frame : Frame)

theorem makeAll_cons :
    makeAll (call :: later) frame =
      let ran := call.builtin.call { frame with stack := call.prepare frame.stack }
      (⟨call.builtin, call.prepare frame.stack, ran.1⟩ :: (makeAll later ran.2).1,
        (makeAll later ran.2).2) := rfl

theorem again_succeeded (calls : List Call) (frame : Frame) :
    ((makeAll calls frame).1.filter Made.succeeded).foldlM Made.again frame.response =
      .ok (makeAll calls frame).2.response := by
  induction calls generalizing frame with
  | nil => rfl
  | cons call later ih =>
    rw [makeAll_cons]
    rcases ran : call.builtin.call { frame with stack := call.prepare frame.stack } with
      ⟨fault | done, after⟩
    next =>
      -- A failure is left out of the second row, and the response it leaves is the one it met.
      have same := (call.builtin.failsCleanly_call _ fault after ran).response
      rw [List.filter_cons_of_neg (by simp [Made.succeeded, Except.isOk, Except.toBool])]
      exact same ▸ ih after
    next =>
      rw [List.filter_cons_of_pos (by simp [Made.succeeded, Except.isOk, Except.toBool]),
        List.foldlM_cons, Made.again]
      dsimp only
      rw [ran]
      exact ih after

end Call

/-- A function that fails leaves the response as it was, and of the stack it has taken at most two
values off the top. So calls in a row, made whatever became of those before them, come to the
response that the successful ones among them come to alone, each on the stack that it met in the
row. -/
theorem Builtin.call_failed :
    (∀ (builtin : Builtin) stack response fault (after : Frame),
      builtin.call ⟨stack, response⟩ = (.error fault, after) →
      after.response = response ∧ ∃ taken, stack = taken ++ after.stack ∧ taken.length ≤ 2) ∧
    ∀ calls frame,
      ((Call.makeAll calls frame).1.filter Call.Made.succeeded).foldlM Call.Made.again
        frame.response = .ok (Call.makeAll calls frame).2.response := by
  refine ⟨fun builtin stack response fault after failed => ?_, Call.again_succeeded⟩
  obtain ⟨same, taken⟩ := builtin.failsCleanly_call _ fault after failed
  exact ⟨same, taken⟩

theorem Builtin.call_failed_behind_header :
    let response : Response :=
      { Response.fresh true (fun _ => false) {} {} [] with headerGenerated := true }
    let calls : List Call :=
      [{ builtin := .decfmt }, { prepare := ([.text "k", .integer 7] ++ ·), builtin := .pparamSet },
        { prepare := fun _ => [.text "k"], builtin := .pparamSet },
        { prepare := (.text "text/css" :: ·), builtin := .setMimeType }]
    let row := Call.makeAll calls ⟨[.text "0.0", .text "x", .absent], response⟩
    (∃ after : Frame, Builtin.setMimeType.call ⟨[.text "text/css", .absent], response⟩ =
        (.error (.response .headerAlreadyGenerated), after) ∧ after.response = response ∧
        ∃ taken, [.text "text/css", .absent] = taken ++ after.stack ∧ taken.length ≤ 2) ∧
      row.1.map Call.Made.succeeded = [false, true, false, false] ∧
      row.2.response.persistent.get? "k" = some "7" ∧
      (row.1.filter Call.Made.succeeded).foldlM Call.Made.again response = .ok row.2.response := by
  intro response calls row
  have failed : Builtin.setMimeType.call ⟨[.text "text/css", .absent], response⟩ =
      (.error (.response .headerAlreadyGenerated), ⟨[.absent], response⟩) := rfl
  obtain ⟨onFailure, inRow⟩ := call_failed
  exact ⟨⟨_, failed, onFailure _ _ _ _ _ failed⟩, by decide +kernel, by decide +kernel,
    inRow calls ⟨[.text "0.0", .text "x", .absent], response⟩⟩

end Stencil
