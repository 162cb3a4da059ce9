import Stencil.Proofs.Document.WellFormed
import Stencil.Proofs.Execution.Scope
import Stencil.Proofs.Response.Step
import Stencil.Proofs.Value

set_option autoImplicit false

namespace Stencil

open Fallible Stateful

namespace Store

def HoldsNumbers (store : Store) : Prop :=
  ∀ entry ∈ store.entries, ∀ value ∈ entry.2, value.isNumber = true

variable {store : Store} {name : String}

theorem holdsNumbers_empty : empty.HoldsNumbers :=
  nofun

theorem HoldsNumbers.stack (numbers : store.HoldsNumbers) (name : String) :
    ∀ value ∈ store.stack name, value.isNumber = true := by
  rw [Store.stack]
  cases found : store.entries.lookup name with
  | none => exact nofun
  | some values =>
    obtain ⟨before, after, split, -⟩ := List.lookup_eq_some_iff.1 found
    exact numbers (name, values) (by simp [split])

theorem HoldsNumbers.setStack (numbers : store.HoldsNumbers) (name : String) {values : List Value}
    (added : ∀ value ∈ values, value.isNumber = true) :
    (store.setStack name values).HoldsNumbers := by
  intro entry member
  rw [entries_setStack, List.mem_append, List.mem_filter] at member
  rcases member with new | ⟨kept, -⟩
  next =>
    split at new
    next => cases new
    next =>
      rw [List.mem_singleton.1 new]
      exact added
  next => exact numbers entry kept

theorem HoldsNumbers.push (numbers : store.HoldsNumbers) (name : String) {value : Value}
    (isNumber : value.isNumber = true) : (store.push name value).HoldsNumbers :=
  numbers.setStack name (List.forall_mem_cons.2 ⟨isNumber, numbers.stack name⟩)

theorem HoldsNumbers.yields_peek (numbers : store.HoldsNumbers) (name : String) :
    Yields (fun value => value.isNumber = true) (· = .noSuchEntry name) (store.peek name) := by
  have values := numbers.stack name
  rw [Store.peek]
  cases pending : store.stack name with
  | nil => rfl
  | cons value rest => exact values value (by simp [pending])

theorem sound_pop (name : String) :
    Sound HoldsNumbers (fun value => value.isNumber = true) (· = .noSuchEntry name)
      (Store.pop name) := by
  intro store numbers
  have values := numbers.stack name
  rw [pop_eq]
  cases pending : store.stack name with
  | nil => exact ⟨rfl, numbers⟩
  | cons value rest =>
    rw [pending] at values
    obtain ⟨top, others⟩ := List.forall_mem_cons.1 values
    exact ⟨top, numbers.setStack name others⟩

end Store

variable {α β : Type} {gives : α → Prop}

def Frame.LacksNothing (frame : Frame) : Prop :=
  ∀ value ∈ frame.stack, value ≠ .absent

namespace Evaluation

-- Whether a step leaves no missing value on a stack without one, and has no error out of reach.
def Safe (gives : α → Prop) (step : Evaluation α) : Prop :=
  Sound Frame.LacksNothing gives (fun fault => fault.isUnreachable = false) step

theorem safe_ofResult {result : Except RuntimeError α}
    (yields : Yields gives (fun fault => fault.isUnreachable = false) result) :
    Safe gives (ofResult result) :=
  sound_liftExcept yields

theorem safe_push {value : Value} (present : value ≠ .absent) :
    Safe (fun _ => True) (push value) :=
  sound_modify fun _ known => List.forall_mem_cons.2 ⟨present, known⟩

theorem safe_pop (consumer : Consumer) : Safe (fun value => value ≠ .absent) (pop consumer) := by
  intro frame known
  rw [pop_apply]
  cases stack : frame.stack with
  | nil => exact ⟨rfl, known⟩
  | cons value rest =>
    rw [Frame.LacksNothing, stack] at known
    exact List.forall_mem_cons.1 known

theorem safe_modifyResponse (change : Response → Response) :
    Safe (fun _ => True) (modify fun frame => { frame with response := change frame.response }) :=
  sound_modify fun _ known => known

theorem safe_respond {operation : Response.Operation Unit}
    (yields : ∀ response, Yields (fun _ => True)
      (fun fault => (RuntimeError.response fault).isUnreachable = false) (operation response).1) :
    Safe (fun _ => True) (respond operation) := by
  intro frame known
  rw [respond_apply]
  exact ⟨(yields frame.response).mapError, known⟩

end Evaluation

namespace Builtin

open Evaluation

theorem safe_popText (builtin : Builtin) : Safe (fun _ => True) (popText builtin) := by
  refine (safe_pop _).bind fun value _ => ?_
  cases value with
  | text content => exact sound_pure trivial
  | _ => exact sound_throw rfl

theorem safe_toFloat (value : Value) : Safe (fun _ => True) (ofResult value.toFloat) :=
  safe_ofResult (value.yields_toFloat.mono fun _ => RuntimeError.isUnreachable_of_cannotParse)

theorem safe_callSin : Safe (fun _ => True) callSin :=
  (safe_pop _).bind fun value _ => (safe_toFloat value).bind fun _ _ => safe_push (by simp)

theorem safe_callDecfmt : Safe (fun _ => True) callDecfmt := by
  refine (safe_popText _).bind fun pattern _ => (safe_pop _).bind fun value _ => ?_
  refine (safe_toFloat value).bind fun number _ => ?_
  split
  next => exact safe_push (by simp)
  next => exact sound_throw rfl

theorem safe_callDup : Safe (fun _ => True) callDup := by
  intro frame known
  rw [callDup, get_bind_apply]
  cases stack : frame.stack with
  | nil => exact ⟨rfl, known⟩
  | cons value rest =>
    have present : value ≠ .absent := known value (by simp [stack])
    exact safe_push present frame known

theorem safe_callSwap : Safe (fun _ => True) callSwap :=
  (safe_pop _).bind fun _ first => (safe_pop _).bind fun _ second =>
    (safe_push first).bind fun _ _ => safe_push second

theorem safe_callSetMimeType : Safe (fun _ => True) callSetMimeType := by
  refine (safe_popText _).bind fun mimeType _ => safe_respond fun response => ?_
  rcases Response.setMimeType_cases mimeType response with ⟨-, ran⟩ | ⟨-, ran⟩
  next =>
    rw [ran]
    rfl
  next =>
    rw [ran]
    exact trivial

-- What is looked up is a text, and the default was on the stack.
theorem safe_callGet (builtin : Builtin) (scope : Response → Scope) :
    Safe (fun _ => True) (callGet builtin scope) := by
  refine (safe_pop _).bind fun default present => (safe_popText _).bind fun name _ => ?_
  intro frame known
  rw [get_bind_apply]
  refine safe_push ?_ frame known
  cases (scope frame.response).get? name with
  | none => exact present
  | some content => exact nofun

theorem safe_callSet (builtin : Builtin) (change : String → String → Response → Response) :
    Safe (fun _ => True) (callSet builtin change) :=
  (safe_popText _).bind fun _ _ => (safe_pop _).bind fun _ _ => safe_modifyResponse _

theorem safe_callDelete (builtin : Builtin) (change : String → Response → Response) :
    Safe (fun _ => True) (callDelete builtin change) :=
  (safe_popText _).bind fun _ _ => safe_modifyResponse _

theorem safe_call (builtin : Builtin) : Safe (fun _ => True) builtin.call := by
  cases builtin with
  | sin => exact safe_callSin
  | decfmt => exact safe_callDecfmt
  | dup => exact safe_callDup
  | swap => exact safe_callSwap
  | setMimeType => exact safe_callSetMimeType
  | paramGet | pparamGet | tparamGet => exact safe_callGet _ _
  | pparamSet | tparamSet => exact safe_callSet _ _
  | pparamDel | tparamDel => exact safe_callDelete _ _

end Builtin

namespace Evaluation

theorem safe_element {store : Store} (numbers : store.HoldsNumbers) (one : Element) :
    Safe (fun _ => True) (element store one) := by
  have safe_number {result : Except RuntimeError Value}
      (yields : Yields (fun value => value.isNumber = true)
        (fun fault => fault.isUnreachable = false) result) :
      Safe (fun _ => True) (do push (← ofResult result)) :=
    (safe_ofResult yields).bind fun _ number => safe_push (Value.ne_absent_of_isNumber number)
  cases one with
  | var name =>
    refine safe_number ((numbers.yields_peek name).mono ?_)
    rintro _ rfl
    rfl
  | operator op =>
    exact (safe_pop _).bind fun first _ => (safe_pop _).bind fun second _ =>
      safe_number ((Value.yields_apply op first second).mono fun _ => Value.isUnreachable_of_apply)
  | call name =>
    rw [element]
    cases Builtin.ofName? name with
    | some builtin => exact builtin.safe_call
    | none => exact sound_throw rfl
  | text content => exact safe_push (by simp)
  | integer n => exact safe_push (by simp)
  | double x => exact safe_push (by simp)

theorem safe_elements {store : Store} (numbers : store.HoldsNumbers) (list : List Element) :
    Safe (fun _ => True) (elements store list) := by
  induction list with
  | nil => exact sound_pure trivial
  | cons first rest ih => exact (safe_element numbers first).bind fun _ _ => ih

theorem elements_lack_nothing {store : Store} (numbers : store.HoldsNumbers) (list : List Element)
    (response : Response) :
    Yields (fun _ => True) (fun fault => fault.isUnreachable = false)
        (elements store list ⟨[], response⟩).1 ∧
      ∀ value ∈ (elements store list ⟨[], response⟩).2.stack, value ≠ .absent :=
  safe_elements numbers list ⟨[], response⟩ nofun

end Evaluation

theorem Response.Content.yields_write (content : Content) (response : Response) :
    Yields (fun _ => True) (· = .sinkUnavailable) (content.write response).1 := by
  have written := content.written response
  generalize content.write response = ran at written
  cases written with
  | headerRefused => rfl
  | refused => rfl
  | delivered => exact trivial

def Halt.isUnreachable : Halt → Bool
  | failed fault => fault.isUnreachable
  | unfinished => false

namespace Execution

def Safe (gives : α → Prop) (action : Execution α) : Prop :=
  Sound (fun machine => machine.store.HoldsNumbers) gives (fun halt => halt.isUnreachable = false)
    action

theorem safe_ofResult {result : Except RuntimeError α}
    (yields : Yields gives (fun fault => fault.isUnreachable = false) result) :
    Safe gives (ofResult result) :=
  sound_liftExcept yields.mapError

theorem safe_write (content : Response.Content) : Safe (fun _ => True) (respond content.write) := by
  intro machine known
  rw [respond_apply]
  refine ⟨Yields.mapError ((content.yields_write machine.response).mono ?_), known⟩
  rintro _ rfl
  rfl

theorem safe_evaluate (elements : List Element) : Safe (fun _ => True) (evaluate elements) := by
  intro machine known
  obtain ⟨result, -⟩ := Evaluation.elements_lack_nothing known elements machine.response
  rw [evaluate_apply]
  exact ⟨result.map.mapError, known⟩

theorem safe_writeValues (values : List Value) : Safe (fun _ => True) (writeValues values) := by
  induction values with
  | nil => exact sound_pure trivial
  | cons value rest ih => exact (safe_write (.text value.display)).bind fun _ _ => ih

theorem safe_pushVariable (name : String) {value : Value} (isNumber : value.isNumber = true) :
    Safe (fun _ => True) (pushVariable name value) :=
  sound_modify fun _ numbers => numbers.push name isNumber

theorem safe_peekVariable (name : String) :
    Safe (fun value => value.isNumber = true) (peekVariable name) := by
  intro machine numbers
  rw [peekVariable_apply]
  refine ⟨Yields.mapError ((numbers.yields_peek name).mono ?_), numbers⟩
  rintro _ rfl
  rfl

theorem safe_popVariable (name : String) :
    Safe (fun value => value.isNumber = true) (popVariable name) := by
  intro machine numbers
  obtain ⟨found, left⟩ := Store.sound_pop name machine.store numbers
  rw [popVariable_apply]
  refine ⟨Yields.mapError (found.mono ?_), left⟩
  rintro _ rfl
  rfl

theorem safe_compare (left right : Value) :
    Safe (fun _ => True) (ofResult (left.compare right)) :=
  safe_ofResult ((left.yields_compare right).mono fun _ =>
    RuntimeError.isUnreachable_of_isOfCounting)

theorem safe_discard {action : Execution α} (inside : Safe gives action) :
    Safe (fun _ => True) (discard action : Execution Unit) := by
  rw [discard_eq]
  exact inside.bind fun _ _ => sound_pure trivial

section

variable {name : String} {stop step : Value} {body : Execution Unit} {limit : Nat}

theorem safe_test : Safe (fun _ => True) (test name stop) := by
  refine (safe_peekVariable name).bind fun current _ => ?_
  refine (safe_compare current stop).bind fun order _ => ?_
  split
  next => exact (safe_discard (safe_popVariable name)).bind fun _ _ => sound_pure trivial
  next => exact sound_pure trivial

theorem safe_advance : Safe (fun _ => True) (advance name stop step) := by
  refine (safe_popVariable name).bind fun counter _ => ?_
  have sum : Yields _ _ (counter.add step) := Value.yields_apply .add counter step
  cases added : counter.add step with
  | error fault =>
    rw [added] at sum
    have within := Value.isUnreachable_of_apply sum
    cases fault with
    | overflow op => exact sound_pure trivial
    | _ => exact sound_throw within
  | ok next =>
    rw [added] at sum
    refine (safe_compare next stop).bind fun order _ => ?_
    refine (safe_pushVariable name sum).bind fun _ _ => ?_
    split
    next => exact (safe_discard (safe_popVariable name)).bind fun _ _ => sound_pure trivial
    next => exact sound_pure trivial

theorem safe_rounds (inside : Safe (fun _ => True) body) :
    Safe (fun _ => True) (rounds name stop step body limit) := by
  induction limit with
  | zero =>
    rw [rounds_zero]
    refine safe_test.bind fun goesOn _ => ?_
    split
    next => exact sound_throw rfl
    next => exact sound_pure trivial
  | succ limit ih =>
    rw [rounds_succ]
    refine safe_test.bind fun goesOn _ => ?_
    split
    next =>
      refine inside.bind fun _ _ => safe_advance.bind fun again _ => ?_
      split
      next => exact ih
      next => exact sound_pure trivial
    next => exact sound_pure trivial

end

theorem isReading_loopOperand {operand : Element} (allowed : operand.isLoopOperand = true) :
    Value.IsReading (loopOperand operand) := by
  cases operand with
  | var name => exact (Value.text name).isReading_coerce
  | text content => exact (Value.text content).isReading_coerce
  | integer n => exact (Value.integer n).isReading_coerce
  | double x => exact (Value.double x).isReading_coerce
  | call name => cases allowed
  | operator op => cases allowed

theorem isReading_operands {head : LoopHead}
    (allowed : ∀ operand ∈ head.operands, operand.isLoopOperand = true) :
    Value.IsReading (loopOperand head.start) ∧ Value.IsReading (loopOperand head.stop) ∧
      Value.IsReading (head.step.elim (.ok (.integer 1)) loopOperand) := by
  obtain ⟨name, start, stop, step⟩ := head
  simp only [LoopHead.operands, List.cons_append, List.nil_append, List.forall_mem_cons] at allowed
  refine ⟨isReading_loopOperand allowed.1, isReading_loopOperand allowed.2.1, ?_⟩
  cases step with
  | none => exact (Value.integer 1).isReading_coerce
  | some operand => exact isReading_loopOperand (allowed.2.2 operand (by simp))

theorem safe_loop {body : Execution Unit} (inside : Safe (fun _ => True) body) (limit : Nat)
    {head : LoopHead} (allowed : ∀ operand ∈ head.operands, operand.isLoopOperand = true) :
    Safe (fun _ => True) (loop limit head body) := by
  have safe_operand {result : Except RuntimeError Value} (reading : Value.IsReading result) :
      Safe (fun number => number.isNumber = true) (ofResult result) :=
    safe_ofResult (reading.mono fun _ => RuntimeError.isUnreachable_of_cannotParse)
  obtain ⟨start, stop, step⟩ := isReading_operands allowed
  exact (safe_operand start).bind fun _ number => (safe_operand stop).bind fun _ _ =>
    (safe_operand step).bind fun _ _ => (safe_pushVariable _ number).bind fun _ _ =>
      safe_rounds inside

end Execution

theorem LoopHead.isLoopOperand_of_isWritable {head : LoopHead} (writable : head.isWritable = true) :
    ∀ operand ∈ head.operands, operand.isLoopOperand = true := by
  intro operand member
  rw [isWritable, Bool.and_eq_true] at writable
  have known := List.all_eq_true.1 writable.2 operand member
  simp only [Element.isOperand, Bool.and_eq_true] at known
  exact known.1.1

theorem Node.safe_executeAll (limit : Nat) {nodes : List Node}
    (writable : areWritable nodes = true) :
    Execution.Safe (fun _ => True) (executeAll limit nodes) := by
  induction nodes using siblings_induction with
  | nil => exact sound_pure trivial
  | text content rest ih =>
    have later : areWritable rest = true := by simpa [areWritable, isWritable] using writable
    rw [executeAll, execute]
    exact (Execution.safe_write (.text content)).bind fun _ _ => ih later
  | output elements rest ih =>
    have later : areWritable rest = true := by
      rw [areWritable, Bool.and_eq_true] at writable
      exact writable.2
    have output : Execution.Safe (fun _ => True) (execute limit (.output elements)) :=
      (Execution.safe_evaluate elements).bind fun values _ => Execution.safe_writeValues values
    rw [executeAll]
    exact output.bind fun _ _ => ih later
  | loop head children rest inside after =>
    simp only [areWritable, isWritable, Bool.and_eq_true] at writable
    obtain ⟨⟨headWritable, childrenWritable⟩, restWritable⟩ := writable
    have operands := LoopHead.isLoopOperand_of_isWritable headWritable
    rw [executeAll, execute]
    exact (Execution.safe_loop (inside childrenWritable) limit operands).bind fun _ _ =>
      after restWritable

theorem Document.safe_executeWithin (limit : Nat) {document : Document}
    (writable : document.isWritable = true) :
    Execution.Safe (fun _ => True) (document.executeWithin limit) :=
  (Node.safe_executeAll limit writable).bind fun _ _ =>
    Execution.safe_write (.bytes ['\n'.toUInt8])

end Stencil
