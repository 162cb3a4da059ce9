set_option autoImplicit false

namespace Stencil.Text

abbrev Ranges := List (Nat × Nat)

namespace Ranges

def holds : Ranges → Nat → Bool
  | [], _ => false
  | (low, high) :: rest, point =>
    -- The ranges ascend, so the first one that does not end before the point decides.
    if point ≤ high then low ≤ point else holds rest point

theorem exists_of_holds {ranges : Ranges} {point : Nat} (inside : ranges.holds point = true) :
    ∃ range ∈ ranges, range.1 ≤ point ∧ point ≤ range.2 := by
  induction ranges with
  | nil => simp [holds] at inside
  | cons head rest ih =>
    obtain ⟨low, high⟩ := head
    by_cases ends : point ≤ high
    · simp [holds, ends] at inside
      exact ⟨(low, high), by simp, inside, ends⟩
    · simp [holds, ends] at inside
      obtain ⟨range, member, bounds⟩ := ih inside
      exact ⟨range, by simp [member], bounds⟩

end Ranges

end Stencil.Text
