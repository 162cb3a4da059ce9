import Stencil.Text.Search

set_option autoImplicit false

namespace Stencil.Text

variable {part skipped rest text : List Char}

theorem containsText_eq_true_iff : containsText part text = true ↔ part <:+: text := by
  induction text with
  | nil => simp [containsText]
  | cons c rest ih => simp [containsText, ih, List.infix_cons_iff]

theorem splitAt?_of_isPrefix (part rest : List Char) :
    splitAt? part (part ++ rest) = some ([], rest) := by
  cases whole : part ++ rest with
  | nil => simp_all [splitAt?]
  | cons c later => simp [splitAt?, ← whole]

theorem splitAt?_cons_of_not_isPrefix {c : Char} (notHere : ¬ part <+: c :: rest) :
    splitAt? part (c :: rest) =
      (splitAt? part rest).map fun (before, after) => (c :: before, after) := by
  simp [splitAt?, notHere]

theorem splitAt?_append {mark : Char} (unmarked : mark ∉ skipped) :
    splitAt? (mark :: part) (skipped ++ rest) =
      (splitAt? (mark :: part) rest).map fun (before, after) => (skipped ++ before, after) := by
  induction skipped with
  | nil => simp
  | cons c later ih =>
    obtain ⟨other, unmarkedLater⟩ := List.ne_and_not_mem_of_not_mem_cons unmarked
    have notHere : ¬ mark :: part <+: c :: (later ++ rest) := by simp [other]
    rw [List.cons_append, splitAt?_cons_of_not_isPrefix notHere, ih unmarkedLater]
    simp [Function.comp_def]

theorem splitAt?_eq_none (absent : ¬ part <:+: text) : splitAt? part text = none := by
  induction text with
  | nil => simp_all [splitAt?]
  | cons c rest ih =>
    obtain ⟨notHere, notLater⟩ := not_or.1 (mt List.infix_cons_iff.2 absent)
    simp [splitAt?_cons_of_not_isPrefix notHere, ih notLater]

end Stencil.Text
