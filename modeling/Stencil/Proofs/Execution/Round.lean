import Stencil.Proofs.Execution.Scope

set_option autoImplicit false

namespace Stencil.Execution

variable {name : String} {stop step value : Value} {body : Execution Unit} {limit : Nat}
  {base : Store} {machine : Machine}

theorem popVariable_of_same_push (same : machine.store.Same (base.push name value)) :
    ∃ rest, popVariable name machine = (.ok value, ⟨rest, machine.response⟩) ∧
      rest.Same base := by
  obtain ⟨rest, popped, left⟩ := Store.pop_of_same_push same
  exact ⟨rest, by rw [popVariable_apply, popped]; rfl, left⟩

theorem test_cases (stop : Value) (same : machine.store.Same (base.push name value)) :
    (∃ fault, value.compare stop = .error fault ∧
      test name stop machine = (.error (.failed fault), machine)) ∨
    (value.compare stop = .ok .gt ∧ ∃ rest, rest.Same base ∧
      test name stop machine = (.ok false, ⟨rest, machine.response⟩)) ∨
    ∃ order, value.compare stop = .ok order ∧ order ≠ .gt ∧
      test name stop machine = (.ok true, machine) := by
  have run : test name stop machine =
      match value.compare stop with
      | .error fault => (.error (.failed fault), machine)
      | .ok order => (if order = .gt then do discard (popVariable name); return false
          else return true : Execution Bool) machine := by
    rw [test, bind_apply, peekVariable_apply, Store.peek_of_same_push same]
    dsimp only [Except.mapError]
    rw [bind_apply, ofResult_apply]
    cases value.compare stop <;> rfl
  rw [run]
  cases value.compare stop with
  | error fault => exact .inl ⟨fault, rfl, rfl⟩
  | ok order =>
    by_cases past : order = .gt
    next =>
      obtain ⟨rest, popped, left⟩ := popVariable_of_same_push same
      refine .inr (.inl ⟨by rw [past], rest, left, ?_⟩)
      dsimp only
      rw [if_pos past, discard_eq, bind_assoc, bind_apply, popped]
      rfl
    next =>
      refine .inr (.inr ⟨order, rfl, past, ?_⟩)
      dsimp only
      rw [if_neg past]
      rfl

theorem advance_cases (stop step : Value) (same : machine.store.Same (base.push name value)) :
    (∃ op rest, value.add step = .error (.overflow op) ∧ rest.Same base ∧
      advance name stop step machine = (.ok false, ⟨rest, machine.response⟩)) ∨
    (∃ fault rest, value.add step = .error fault ∧ (∀ op, fault ≠ .overflow op) ∧
      rest.Same base ∧
      advance name stop step machine = (.error (.failed fault), ⟨rest, machine.response⟩)) ∨
    (∃ next fault rest, value.add step = .ok next ∧ next.compare stop = .error fault ∧
      rest.Same base ∧
      advance name stop step machine = (.error (.failed fault), ⟨rest, machine.response⟩)) ∨
    (∃ next rest, value.add step = .ok next ∧ next.compare stop = .ok .gt ∧ rest.Same base ∧
      advance name stop step machine = (.ok false, ⟨rest, machine.response⟩)) ∨
    ∃ next order pushed, value.add step = .ok next ∧ next.compare stop = .ok order ∧ order ≠ .gt ∧
      pushed.Same (base.push name next) ∧
      advance name stop step machine = (.ok true, ⟨pushed, machine.response⟩) := by
  obtain ⟨rest, popped, left⟩ := popVariable_of_same_push same
  rw [advance, bind_apply, popped]
  dsimp only
  cases added : value.add step with
  | error fault =>
    cases fault with
    | overflow op => exact .inl ⟨op, rest, rfl, left, rfl⟩
    | _ => exact .inr (.inl ⟨_, rest, rfl, fun _ other => (by cases other), left, rfl⟩)
  | ok next =>
    dsimp only
    rw [bind_apply, ofResult_apply]
    cases compared : next.compare stop with
    | error fault => exact .inr (.inr (.inl ⟨next, fault, rest, rfl, compared, left, rfl⟩))
    | ok order =>
      have pushed : (rest.push name next).Same (base.push name next) := left.push name next
      dsimp only [Except.mapError]
      rw [bind_apply, pushVariable_apply]
      by_cases past : order = .gt
      next =>
        -- The counter that was just pushed is the one that goes off again.
        have top : Machine.store ⟨rest.push name next, machine.response⟩ = rest.push name next := rfl
        obtain ⟨dropped, poppedAgain, leftAgain⟩ := popVariable_of_same_push (top ▸ pushed)
        refine .inr (.inr (.inr (.inl ⟨next, dropped, rfl, by rw [compared, past], leftAgain, ?_⟩)))
        dsimp only
        rw [if_pos past, discard_eq, bind_assoc, bind_apply, poppedAgain]
        rfl
      next =>
        refine .inr (.inr (.inr (.inr ⟨next, order, _, rfl, compared, past, pushed, ?_⟩)))
        dsimp only
        rw [if_neg past]
        rfl

theorem machine_eq_of_test {begun : Machine} (same : machine.store.Same (base.push name value))
    (tested : test name stop machine = (.ok true, begun)) : begun = machine := by
  rcases test_cases stop same with
    ⟨fault, -, run⟩ | ⟨-, rest, -, run⟩ | ⟨order, -, -, run⟩
  next => cases tested.symm.trans run
  next => cases tested.symm.trans run
  next => exact congrArg Prod.snd (tested.symm.trans run)

theorem following_of_advance {moved : Machine} (same : machine.store.Same (base.push name value))
    (advanced : advance name stop step machine = (.ok true, moved)) :
    ∃ following, value.add step = .ok following ∧ moved.store.Same (base.push name following) := by
  rcases advance_cases stop step same with
    ⟨op, rest, -, -, run⟩ | ⟨fault, rest, -, -, -, run⟩ | ⟨next, fault, rest, -, -, -, run⟩ |
    ⟨next, rest, -, -, -, run⟩ | ⟨next, order, pushed, sum, -, -, left, run⟩
  next => cases advanced.symm.trans run
  next => cases advanced.symm.trans run
  next => cases advanced.symm.trans run
  next => cases advanced.symm.trans run
  next =>
    obtain rfl : moved = ⟨pushed, machine.response⟩ :=
      congrArg Prod.snd (advanced.symm.trans run)
    exact ⟨next, sum, left⟩

theorem same_push_of_advance {following : Value} {moved : Machine}
    (same : machine.store.Same (base.push name value))
    (advanced : advance name stop step machine = (.ok true, moved))
    (added : value.add step = .ok following) : moved.store.Same (base.push name following) := by
  obtain ⟨next, sum, left⟩ := following_of_advance same advanced
  obtain rfl : following = next := Except.ok.inj (added.symm.trans sum)
  exact left

variable {holds : Except Halt Unit × Machine → Prop}

theorem test_rule {round : Execution Unit}
    (away : ∀ result (after : Machine), after.store.Same base → holds (result, after))
    (kept : ∀ halt, holds (.error halt, machine))
    (same : machine.store.Same (base.push name value)) (goesOn : holds (round machine)) :
    holds ((do if ← test name stop then round : Execution Unit) machine) := by
  rw [bind_apply]
  rcases test_cases stop same with
    ⟨fault, -, tested⟩ | ⟨-, rest, left, tested⟩ | ⟨order, -, -, tested⟩
  next =>
    rw [tested]
    exact kept (.failed fault)
  next =>
    rw [tested]
    exact away _ _ left
  next =>
    rw [tested]
    exact goesOn

theorem advance_rule {round : Execution Unit}
    (away : ∀ result (after : Machine), after.store.Same base → holds (result, after))
    (same : machine.store.Same (base.push name value))
    (goesOn : ∀ next (after : Machine), after.store.Same (base.push name next) →
      holds (round after)) :
    holds ((do if ← advance name stop step then round : Execution Unit) machine) := by
  rw [bind_apply]
  rcases advance_cases stop step same with
    ⟨op, rest, -, left, advanced⟩ | ⟨fault, rest, -, -, left, advanced⟩ |
    ⟨next, fault, rest, -, -, left, advanced⟩ | ⟨next, rest, -, -, left, advanced⟩ |
    ⟨next, order, pushed, -, -, -, left, advanced⟩
  next =>
    rw [advanced]
    exact away _ _ left
  next =>
    rw [advanced]
    exact away _ _ left
  next =>
    rw [advanced]
    exact away _ _ left
  next =>
    rw [advanced]
    exact away _ _ left
  next =>
    rw [advanced]
    exact goesOn next _ left

theorem rounds_rule (restores : body.Restores)
    (away : ∀ result (after : Machine), after.store.Same base → holds (result, after))
    (kept : ∀ halt value (after : Machine), after.store.Same (base.push name value) →
      holds (.error halt, after))
    (broken : ∀ value (before : Machine) halt after, before.store.Same (base.push name value) →
      body before = (.error halt, after) → holds (.error halt, after))
    (same : machine.store.Same (base.push name value)) :
    holds (rounds name stop step body limit machine) := by
  induction limit generalizing value machine with
  | zero =>
    rw [rounds_zero]
    have here (halt : Halt) : holds (.error halt, machine) := kept halt value machine same
    exact test_rule away here same (here .unfinished)
  | succ limit ih =>
    rw [rounds_succ]
    refine test_rule away (fun halt => kept halt value machine same) same ?_
    rw [bind_apply]
    rcases visited : body machine with ⟨_ | _, after⟩
    next halt => exact broken value machine halt after same visited
    next =>
      have atEnd := (restores.same visited).trans same
      exact advance_rule away atEnd fun next moved left => ih left

end Stencil.Execution
