import Stencil.Proofs.Document.RoundTrip
import Stencil.Proofs.Execution.Lexical
import Stencil.Proofs.Execution.Sound

set_option autoImplicit false

namespace Stencil

open Fallible Stateful

namespace Node

theorem isWritable_of_mem {nodes : List Node} (writable : areWritable nodes = true) :
    ∀ node ∈ nodes, node.isWritable = true := by
  induction nodes with
  | nil => exact nofun
  | cons node rest ih =>
    rw [areWritable, Bool.and_eq_true] at writable
    exact List.forall_mem_cons.2 ⟨writable.1, ih writable.2⟩

theorem Within.isWritable {nodes : List Node} {heads : List LoopHead} {node : Node}
    (within : Within nodes heads node) (writable : areWritable nodes = true) :
    node.isWritable = true := by
  induction within with
  | top member => exact isWritable_of_mem writable _ member
  | inside loop member ih =>
    rw [Node.isWritable, Bool.and_eq_true] at ih
    exact isWritable_of_mem ih.2 _ member

theorem Within.isLoopOperand {nodes children : List Node} {heads : List LoopHead} {head : LoopHead}
    (within : Within nodes heads (.loop head children)) (writable : areWritable nodes = true) :
    ∀ operand ∈ head.operands, operand.isLoopOperand = true := by
  have loopWritable := within.isWritable writable
  rw [Node.isWritable, Bool.and_eq_true] at loopWritable
  exact LoopHead.isLoopOperand_of_isWritable loopWritable.1

end Node

namespace Execution

variable {name : String} {stop step start value : Value} {body : Execution Unit} {limit : Nat}
  {entry machine after : Machine} {fault : RuntimeError}

theorem Round.isNumber (round : Round name start stop step body entry value machine)
    (number : start.isNumber = true) : value.isNumber = true := by
  cases round with
  | first => exact number
  | @next value _ _ _ _ _ before visit advanced added tested =>
    have sum : Yields _ _ (value.add step) := Value.yields_apply .add value step
    rwa [added] at sum

theorem Round.holdsNumbers (round : Round name start stop step body entry value machine)
    (inside : Safe (fun _ => True) body) (number : start.isNumber = true)
    (numbers : entry.store.HoldsNumbers) : machine.store.HoldsNumbers := by
  induction round with
  | first tested => exact (safe_test.of_run (numbers.push name number) tested).2
  | next before visit advanced added tested ih =>
    have visited := (inside.of_run ih visit).2
    have moved := (safe_advance.of_run visited advanced).2
    exact (safe_test.of_run moved tested).2

theorem isOfCounting_of_compare {left right : Value}
    (compared : left.compare right = .error fault) : fault.isOfCounting = true :=
  (left.yields_compare right).faultsOnly fault compared

theorem isOfCounting_of_add (added : value.add step = .error fault)
    (other : ∀ op, fault ≠ .overflow op) : fault.isOfCounting = true := by
  have known := (Value.yields_apply .add value step).faultsOnly fault added
  rcases known with unread | rfl | ⟨division, -⟩
  next => exact RuntimeError.isOfCounting_of_cannotParse unread
  next => exact absurd rfl (other .add)
  next => cases division

theorem fault_of_test {base : Store} {round : Execution Unit}
    (same : machine.store.Same (base.push name value))
    (failed : (do if ← test name stop then round : Execution Unit) machine =
      (.error (.failed fault), after)) :
    fault.isOfCounting = true ∨
      test name stop machine = (.ok true, machine) ∧
        round machine = (.error (.failed fault), after) := by
  rw [bind_apply] at failed
  rcases test_cases stop same with
    ⟨_, compared, tested⟩ | ⟨-, rest, -, tested⟩ | ⟨order, -, -, tested⟩
  next =>
    rw [tested] at failed
    cases failed
    exact .inl (isOfCounting_of_compare compared)
  next =>
    rw [tested] at failed
    cases failed
  next =>
    rw [tested] at failed
    exact .inr ⟨tested, failed⟩

theorem fault_of_advance {base : Store} {round : Execution Unit}
    (same : machine.store.Same (base.push name value))
    (failed : (do if ← advance name stop step then round : Execution Unit) machine =
      (.error (.failed fault), after)) :
    fault.isOfCounting = true ∨
      ∃ next moved, value.add step = .ok next ∧ moved.store.Same (base.push name next) ∧
        advance name stop step machine = (.ok true, moved) ∧
        round moved = (.error (.failed fault), after) := by
  rw [bind_apply] at failed
  rcases advance_cases stop step same with
    ⟨op, rest, -, -, advanced⟩ | ⟨_, rest, sum, other, -, advanced⟩ |
    ⟨next, _, rest, -, compared, -, advanced⟩ | ⟨next, rest, -, -, -, advanced⟩ |
    ⟨next, order, pushed, sum, -, -, left, advanced⟩
  next =>
    rw [advanced] at failed
    cases failed
  next =>
    rw [advanced] at failed
    cases failed
    exact .inl (isOfCounting_of_add sum other)
  next =>
    rw [advanced] at failed
    cases failed
    exact .inl (isOfCounting_of_compare compared)
  next =>
    rw [advanced] at failed
    cases failed
  next =>
    rw [advanced] at failed
    exact .inr ⟨next, _, sum, left, advanced, failed⟩

def FailsInRound (name : String) (start stop step : Value) (body : Execution Unit) (entry : Machine)
    (fault : RuntimeError) (after : Machine) : Prop :=
  ∃ value begun, Round name start stop step body entry value begun ∧
    body begun = (.error (.failed fault), after)

theorem fault_of_rounds (restores : body.Restores)
    (same : machine.store.Same (entry.store.push name value))
    (arrives : ∀ begun, test name stop machine = (.ok true, begun) →
      Round name start stop step body entry value begun)
    (failed : rounds name stop step body limit machine = (.error (.failed fault), after)) :
    fault.isOfCounting = true ∨ FailsInRound name start stop step body entry fault after := by
  -- `arrives` is the invariant that makes the rest of the rounds a part of the whole loop.
  induction limit generalizing value machine with
  | zero =>
    rw [rounds_zero] at failed
    rcases fault_of_test same failed with counting | ⟨-, unfinished⟩
    next => exact .inl counting
    next => cases unfinished
  | succ limit ih =>
    rw [rounds_succ] at failed
    rcases fault_of_test same failed with counting | ⟨tested, failed⟩
    next => exact .inl counting
    next =>
      have round := arrives machine tested
      rw [bind_apply] at failed
      rcases visit : body machine with ⟨_ | _, visited⟩
      next halt =>
        rw [visit] at failed
        cases failed
        exact .inr ⟨value, machine, round, visit⟩
      next =>
        rw [visit] at failed
        rcases fault_of_advance ((restores.same visit).trans same) failed with
          counting | ⟨next, moved, sum, left, advanced, failed⟩
        next => exact .inl counting
        next =>
          exact ih left (fun begun tested => .next round visit advanced sum tested) failed

theorem fault_of_operand {result : Except RuntimeError Value} {rest : Value → Execution Unit}
    (reading : Value.IsReading result)
    (failed : (ofResult result >>= rest) machine = (.error (.failed fault), after)) :
    fault.isOfCounting = true ∨
      ∃ value, result = .ok value ∧ rest value machine = (.error (.failed fault), after) := by
  rw [bind_apply, ofResult_apply] at failed
  cases result with
  | error other =>
    cases failed
    exact .inl (RuntimeError.isOfCounting_of_cannotParse reading)
  | ok value => exact .inr ⟨value, rfl, failed⟩

theorem fault_of_loop {head : LoopHead} (restores : body.Restores)
    (allowed : ∀ operand ∈ head.operands, operand.isLoopOperand = true)
    (failed : loop limit head body machine = (.error (.failed fault), after)) :
    fault.isOfCounting = true ∨
      ∃ first last step, loopOperand head.start = .ok first ∧ loopOperand head.stop = .ok last ∧
        head.step.elim (.ok (.integer 1)) loopOperand = .ok step ∧
        FailsInRound head.variableName first last step body machine fault after := by
  obtain ⟨startReads, stopReads, stepReads⟩ := isReading_operands allowed
  rw [loop] at failed
  rcases fault_of_operand startReads failed with counting | ⟨first, startIs, failed⟩
  next => exact .inl counting
  rcases fault_of_operand stopReads failed with counting | ⟨last, lastIs, failed⟩
  next => exact .inl counting
  rcases fault_of_operand stepReads failed with counting | ⟨step, stepIs, failed⟩
  next => exact .inl counting
  rw [bind_apply, pushVariable_apply] at failed
  rcases fault_of_rounds restores (Store.Same.refl _) (fun _ tested => .first tested) failed with
    counting | inRound
  next => exact .inl counting
  next => exact .inr ⟨first, last, step, startIs, lastIs, stepIs, inRound⟩

end Execution

namespace Place

variable {limit : Nat} {nodes : List Node} {response : Response} {place : Place}

theorem Reaches.holdsNumbers (reaches : Reaches limit (outset nodes response) place)
    (writable : Node.areWritable nodes = true) :
    Node.areWritable place.nodes = true ∧ place.machine.store.HoldsNumbers ∧
      ∀ turn ∈ place.loops, turn.2.isNumber = true := by
  induction reaches with
  | start => exact ⟨writable, Store.holdsNumbers_empty, List.forall_mem_nil _⟩
  | @past loops node rest machine after before visit ih =>
    obtain ⟨nodesWritable, numbers, counters⟩ := ih
    rw [Node.areWritable, Bool.and_eq_true] at nodesWritable
    have alone : Node.areWritable [node] = true := by simp [Node.areWritable, nodesWritable.1]
    have visited := Node.safe_executeAll limit alone
    rw [Node.executeAll_singleton] at visited
    exact ⟨nodesWritable.2, (visited.of_run numbers visit).2, counters⟩
  | @enter loops head children rest machine begun first last step value before startIs lastIs stepIs
      round ih =>
    obtain ⟨nodesWritable, numbers, counters⟩ := ih
    simp only [Node.areWritable, Node.isWritable, Bool.and_eq_true] at nodesWritable
    obtain ⟨⟨headWritable, childrenWritable⟩, -⟩ := nodesWritable
    have startReads := (Execution.isReading_operands
      (LoopHead.isLoopOperand_of_isWritable headWritable)).1
    rw [startIs] at startReads
    exact ⟨childrenWritable,
      round.holdsNumbers (Node.safe_executeAll limit childrenWritable) startReads numbers,
      List.forall_mem_cons.2 ⟨round.isNumber startReads, counters⟩⟩

end Place

/-- Wherever the execution of a parsed script comes to, and where it ends, the store holds only
numbers, and no value on the stack of an output tag is missing; the error in which it ends, if any,
is neither of a value that is no number nor of an encoding. A loop by itself fails only with a text
that is no number or with numbers that have no order; every other error is one of its children, in
a round. A value is coerced to nothing but a number, and no operand of a loop is of a kind without
a value. -/
theorem Script.execute_holds_numbers {source : String} {fileId : Nat} {script : Script}
    (parsed : Script.parse source fileId = .ok script) (limit : Nat) (response : Response) :
    let start := Place.outset script.document.children response
    let run := script.document.executeWithin limit start.machine
    (∀ place, Place.Reaches limit start place →
      place.machine.store.HoldsNumbers ∧ (∀ turn ∈ place.loops, turn.2.isNumber = true) ∧
      ∀ elements rest, place.nodes = .output elements :: rest →
        ∀ passed later, elements = passed ++ later →
          let frame : Frame := ⟨[], place.machine.response⟩
          ∀ value ∈ (Evaluation.elements place.machine.store passed frame).2.stack,
            value ≠ .absent) ∧
      run.2.store.HoldsNumbers ∧
      (∀ fault, run.1 = .error (.failed fault) → fault.isUnreachable = false) ∧
      (∀ heads head children, Node.Within script.document.children heads (.loop head children) →
        (∀ operand ∈ head.operands, ∀ kind,
          Execution.loopOperand operand ≠ .error (.unsupportedValue kind)) ∧
        ∀ machine fault after,
          Node.execute limit (.loop head children) machine = (.error (.failed fault), after) →
          fault.isOfCounting = true ∨
            ∃ first last step, Execution.loopOperand head.start = .ok first ∧
              Execution.loopOperand head.stop = .ok last ∧
              head.step.elim (.ok (.integer 1)) Execution.loopOperand = .ok step ∧
              Execution.FailsInRound head.variableName first last step
                (Node.executeAll limit children) machine fault after) ∧
      ∀ value : Value,
        (∀ number, value.coerce = .ok number →
          number.isNumber = true ∧ ∃ x, number.promote = .ok x) ∧
        ∀ kind, value.toFloat ≠ .error (.unsupportedValue kind) := by
  intro start run
  have writable : Node.areWritable script.document.children = true := by
    obtain ⟨document, parsedDocument, rfl⟩ := map_eq_ok_iff.1 parsed
    exact (Document.isWritable_of_parse parsedDocument).1
  obtain ⟨result, left⟩ := Document.safe_executeWithin limit writable start.machine
    Store.holdsNumbers_empty
  have notUnsupported {kind : String} (unread : ∃ content, RuntimeError.unsupportedValue kind =
      .cannotParse content) : False := by
    obtain ⟨_, ⟨⟩⟩ := unread
  refine ⟨fun place reaches => ?_, left, fun fault failed => ?_,
    fun heads head children within => ⟨fun operand member kind unsupported => ?_,
      fun machine fault after failed => ?_⟩, fun value => ⟨fun number coerced => ?_,
        fun kind unsupported => ?_⟩⟩
  next =>
    obtain ⟨-, numbers, counters⟩ := reaches.holdsNumbers writable
    refine ⟨numbers, counters, fun _ _ _ passed _ _ => ?_⟩
    exact (Evaluation.elements_lack_nothing numbers passed place.machine.response).2
  next => exact (Yields.faultsOnly result) _ failed
  next =>
    have reading := Execution.isReading_loopOperand (within.isLoopOperand writable operand member)
    exact notUnsupported (reading.faultsOnly _ unsupported)
  next =>
    rw [Node.execute] at failed
    exact Execution.fault_of_loop (Node.leavesAtMost_executeAll limit children).restores
      (within.isLoopOperand writable) failed
  next =>
    have reading := value.isReading_coerce
    rw [coerced] at reading
    exact ⟨reading, Value.exists_promote reading⟩
  next => exact notUnsupported (value.yields_toFloat.faultsOnly _ unsupported)

theorem Script.execute_holds_numbers_of_default :
    let source :=
      "\x7b$for i 1 2$\x7d\x7b$=\"k\" i @paramGet$\x7d\x7b$end$\x7d\x7b$for j x 1$\x7d\x7b$end$\x7d"
    let head : LoopHead := ⟨"i", .integer 1, .integer 2, none⟩
    let look : List Element := [.text "k", .var "i", .call "paramGet"]
    let broken : Node := .loop ⟨"j", .var "x", .integer 1, none⟩ []
    let document : Document := ⟨[.loop head [.output look], broken]⟩
    Script.parse source 3 = .ok ⟨document, 3⟩ ∧
      ∃ machine, Place.Reaches 3 (.outset document.children {})
          ⟨[(head, .integer 1)], [.output look], machine⟩ ∧
        machine.store.HoldsNumbers ∧
        (∀ value ∈ (Evaluation.elements machine.store look ⟨[], machine.response⟩).2.stack,
          value ≠ .absent) ∧
        Node.execute 3 broken machine = (.error (.failed (.cannotParse "x")), machine) ∧
        (RuntimeError.cannotParse "x").isOfCounting = true := by
  intro source head look broken document
  have parsed : Script.parse source 3 = .ok ⟨document, 3⟩ := by cbv
  have run {run : Except Halt Bool × Machine} (goesOn : run.1 = .ok true) :
      run = (.ok true, run.2) := Prod.ext goesOn rfl
  have reaches : ∃ machine, Place.Reaches 3 (.outset document.children {})
      ⟨[(head, .integer 1)], [.output look], machine⟩ :=
    ⟨_, .enter .start rfl rfl rfl (.first (run rfl))⟩
  obtain ⟨machine, reached⟩ := reaches
  have failed : Node.execute 3 broken machine =
      (.error (.failed (.cannotParse "x")), machine) := rfl
  obtain ⟨places, -, -, loops, -⟩ := execute_holds_numbers parsed 3 {}
  obtain ⟨numbers, -, present⟩ := places _ reached
  have broke := (loops [] _ [] (.top (by simp [document, broken]))).2 machine _ _ failed
  refine ⟨parsed, machine, reached, numbers, present look [] rfl look [] rfl, failed, ?_⟩
  rcases broke with counting | ⟨first, last, step, startIs, -⟩
  next => exact counting
  next => cases startIs

end Stencil
