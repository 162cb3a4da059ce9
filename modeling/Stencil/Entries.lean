set_option autoImplicit false

namespace Stencil.Entries

variable {α : Type}

theorem lookup_cons_eq (entries : List (String × α)) (key name : String) (content : α) :
    List.lookup name ((key, content) :: entries) =
      if name = key then some content else entries.lookup name := by
  by_cases found : name = key
  next => simp [found]
  next => simp [List.lookup_cons, found, beq_false_of_ne found]

theorem lookup_filter_ne (entries : List (String × α)) (removed name : String) :
    (entries.filter fun entry => entry.1 ≠ removed).lookup name =
      if name = removed then none else entries.lookup name := by
  induction entries with
  | nil => simp
  | cons head rest ih =>
    obtain ⟨key, content⟩ := head
    by_cases dropped : key = removed
    next =>
      rw [List.filter_cons_of_neg (by simp [dropped]), ih, lookup_cons_eq]
      split <;> simp_all
    next =>
      rw [List.filter_cons_of_pos (by simp [dropped]), lookup_cons_eq, lookup_cons_eq, ih]
      split <;> split <;> simp_all

end Stencil.Entries
