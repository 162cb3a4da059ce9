set_option autoImplicit false

namespace Stencil.Fallible

variable {ε α β : Type}

theorem map_eq_ok_iff {f : α → β} {result : Except ε α} {value : β} :
    result.map f = .ok value ↔ ∃ inner, result = .ok inner ∧ f inner = value := by
  cases result <;> simp [Except.map]

theorem map_eq_error_iff {f : α → β} {result : Except ε α} {fault : ε} :
    result.map f = .error fault ↔ result = .error fault := by
  cases result <;> simp [Except.map]

theorem bind_eq_ok_iff {f : α → Except ε β} {result : Except ε α} {value : β} :
    result.bind f = .ok value ↔ ∃ inner, result = .ok inner ∧ f inner = .ok value := by
  cases result <;> simp [Except.bind]

end Stencil.Fallible
