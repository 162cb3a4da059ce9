import Stencil.Proofs.Execution.Loop
import Stencil.Proofs.Number.Int64

set_option autoImplicit false

namespace Stencil

theorem Value.add_integers (a b : Int64) :
    (integer a).add (integer b) =
      if InInt64 (a.toInt + b.toInt) then .ok (integer (Int64.ofInt (a.toInt + b.toInt)))
      else .error (.overflow .add) := by
  simp [Value.add, apply, coerce, integerResult, exactResult, InInt64, bind, Except.bind]

theorem Value.compare_integers (a b : Int64) :
    (integer a).compare (integer b) = .ok (Ord.compare a.toInt b.toInt) := rfl

/-- How many of the numbers from `a` on, `s` apart from each other, come before the first that is
greater than `b` or no integer. -/
def visitCount (a b s : Int) : Nat :=
  if b < a then 0
  else if 0 < s then ((b - a) / s).toNat + 1
  else ((a - Int64.minValue.toInt) / -s).toNat + 1

variable {a b s : Int}

theorem visitCount_of_lt (past : b < a) : visitCount a b s = 0 :=
  if_pos past

theorem toNat_ediv_of_lt {x d : Int} (nonneg : 0 ≤ x) (less : x < d) : (x / d).toNat = 0 := by
  rw [Int.ediv_eq_zero_of_lt nonneg less, Int.toNat_zero]

theorem toNat_ediv_of_le {x d : Int} (positive : 0 < d) (large : d ≤ x) :
    (x / d).toNat = ((x - d) / d).toNat + 1 := by
  have split : x / d = (x - d) / d + 1 := by
    rw [← Int.add_mul_ediv_right (x - d) 1 (Int.ne_of_gt positive)]
    congr 1
    omega
  have nonneg : 0 ≤ (x - d) / d := Int.ediv_nonneg (by omega) (by omega)
  omega

theorem visitCount_step (nonzero : s ≠ 0) (start : InInt64 a) (last : InInt64 b) (goesOn : a ≤ b) :
    visitCount a b s = (if InInt64 (a + s) then visitCount (a + s) b s else 0) + 1 := by
  have notPast : ¬ b < a := Int.not_lt.2 goesOn
  obtain ⟨low, high⟩ := start
  by_cases up : 0 < s
  next =>
    -- Upwards the loop is past its end before the integers are.
    rw [visitCount, if_neg notPast, if_pos up]
    by_cases past : b < a + s
    next =>
      rw [visitCount_of_lt past, ite_self, toNat_ediv_of_lt (by omega) (by omega)]
    next =>
      have inside : InInt64 (a + s) := ⟨by omega, Int.le_trans (Int.not_lt.1 past) last.2⟩
      have shorter : b - a - s = b - (a + s) := by omega
      rw [if_pos inside, visitCount, if_neg past, if_pos up, toNat_ediv_of_le up (by omega),
        shorter]
  next =>
    have down : 0 < -s := by omega
    -- Downwards only the integers end.
    rw [visitCount, if_neg notPast, if_neg up]
    by_cases below : a + s < Int64.minValue.toInt
    next =>
      have outside : ¬ InInt64 (a + s) := fun inside => absurd inside.1 (Int.not_le.2 below)
      rw [if_neg outside, toNat_ediv_of_lt (by omega) (by omega)]
    next =>
      have inside : InInt64 (a + s) := ⟨Int.not_lt.1 below, by omega⟩
      have shorter : a - Int64.minValue.toInt - -s = a + s - Int64.minValue.toInt := by omega
      rw [if_pos inside, visitCount, if_neg (by omega), if_neg up, toNat_ediv_of_le down (by omega),
        shorter]

theorem lt_visitCount_iff (nonzero : s ≠ 0) (start : InInt64 a) (last : InInt64 b) (k : Nat) :
    k < visitCount a b s ↔ ∀ j ≤ k, a + j * s ≤ b ∧ InInt64 (a + j * s) := by
  induction k generalizing a with
  | zero =>
    by_cases past : b < a
    next =>
      rw [visitCount_of_lt past]
      refine ⟨fun none => by omega, fun all => ?_⟩
      have := (all 0 (by omega)).1
      omega
    next =>
      rw [visitCount_step nonzero start last (Int.not_lt.1 past)]
      refine ⟨fun _ j first => ?_, fun _ => by omega⟩
      obtain rfl : j = 0 := by omega
      exact ⟨by omega, by simpa using start⟩
  | succ k ih =>
    -- The values from the second on are those of a loop that starts there.
    have shift (j : Nat) : a + s + j * s = a + (j + 1 : Nat) * s := by
      rw [Int.natCast_add, Int.add_mul]
      omega
    by_cases past : b < a
    next =>
      rw [visitCount_of_lt past]
      refine ⟨fun none => by omega, fun all => ?_⟩
      have := (all 0 (by omega)).1
      omega
    next =>
      rw [visitCount_step nonzero start last (Int.not_lt.1 past)]
      by_cases inside : InInt64 (a + s)
      next =>
        rw [if_pos inside, Nat.add_lt_add_iff_right, ih inside]
        constructor
        next =>
          intro later j within
          cases j with
          | zero => exact ⟨by omega, by simpa using start⟩
          | succ j =>
            rw [← shift]
            exact later j (by omega)
        next =>
          intro all j within
          rw [shift]
          exact all (j + 1) (by omega)
      next =>
        rw [if_neg inside]
        refine ⟨fun none => by omega, fun all => ?_⟩
        have second := (all 1 (by omega)).2
        exact absurd (by simpa using second) inside

theorem visitCount_le (start : InInt64 a) (last : InInt64 b) : visitCount a b s ≤ roundLimit := by
  have ends : Int64.maxValue.toInt - Int64.minValue.toInt + 1 = roundLimit := by decide
  obtain ⟨low, high⟩ := start
  obtain ⟨lowLast, highLast⟩ := last
  unfold visitCount
  split
  next => omega
  next =>
    split
    next =>
      have := Int.ediv_le_self s (show 0 ≤ b - a by omega)
      omega
    next =>
      have := Int.ediv_le_self (-s) (show 0 ≤ a - Int64.minValue.toInt by omega)
      omega

def counters (start step : Int64) (count : Nat) : List Value :=
  (List.range count).map fun k : Nat => .integer (Int64.ofInt (start.toInt + k * step.toInt))

theorem counters_succ {start step : Int64} {count : Nat}
    (inside : 0 < count → InInt64 (start.toInt + step.toInt)) :
    counters start step (count + 1) =
      .integer start :: counters (Int64.ofInt (start.toInt + step.toInt)) step count := by
  rw [counters, counters, List.range_succ_eq_map, List.map_cons, List.map_map]
  congr 1
  next => simp
  next =>
    refine List.map_congr_left fun k member => ?_
    have some : 0 < count := Nat.zero_lt_of_lt (List.mem_range.1 member)
    simp only [Function.comp_apply, toInt_ofInt_of_inInt64 (inside some)]
    congr 2
    rw [Nat.succ_eq_add_one, Int.natCast_add, Int.add_mul]
    omega

namespace Effect

def visits (visit : Value → Effect) : List Value → Effect
  | [] => done
  | value :: rest => (visit value).andThen (visits visit rest)

theorem unfinished_of_visits {visit : Value → Effect} {values : List Value} {response : Response}
    (unfinished : (visits visit values response).1 = .error .unfinished) :
    ∃ value ∈ values, ∃ before, (visit value before).1 = .error .unfinished := by
  induction values generalizing response with
  | nil => cases unfinished
  | cons value rest ih =>
    rw [visits, andThen] at unfinished
    rcases visited : visit value response with ⟨_ | _, after⟩
    next halt =>
      rw [visited] at unfinished
      exact ⟨value, List.mem_cons_self, response, by rw [visited]; exact unfinished⟩
    next =>
      rw [visited] at unfinished
      obtain ⟨other, member, before, found⟩ := ih unfinished
      exact ⟨other, List.mem_cons_of_mem _ member, before, found⟩

theorem countFrom_of_past (visit : Value → Effect) {start last : Int64}
    (past : last.toInt < start.toInt) (step : Value) (limit : Nat) :
    countFrom visit (.integer last) step limit (.integer start) = done :=
  countFrom_of_greater (congrArg Except.ok (Int.compare_eq_gt.2 past))

theorem countFrom_integers (visit : Value → Effect) {start last step : Int64}
    (nonzero : step.toInt ≠ 0) {limit : Nat}
    (enough : visitCount start.toInt last.toInt step.toInt ≤ limit) :
    countFrom visit (.integer last) (.integer step) limit (.integer start) =
      visits visit (counters start step (visitCount start.toInt last.toInt step.toInt)) := by
  induction limit generalizing start with
  | zero =>
    by_cases past : last.toInt < start.toInt
    next =>
      rw [countFrom_of_past visit past, visitCount_of_lt past]
      rfl
    next =>
      rw [visitCount_step nonzero (inInt64_toInt start) (inInt64_toInt last)
        (Int.not_lt.1 past)] at enough
      omega
  | succ limit ih =>
    by_cases past : last.toInt < start.toInt
    next =>
      rw [countFrom_of_past visit past, visitCount_of_lt past]
      rfl
    next =>
      have count := visitCount_step nonzero (inInt64_toInt start) (inInt64_toInt last)
        (Int.not_lt.1 past)
      rw [count] at enough ⊢
      -- One round is a visit, and the rest is the loop from the sum on, if the sum is an integer.
      have round : countFrom visit (.integer last) (.integer step) (limit + 1) (.integer start) =
          (visit (.integer start)).andThen
            (if InInt64 (start.toInt + step.toInt) then
              countFrom visit (.integer last) (.integer step) limit
                (.integer (Int64.ofInt (start.toInt + step.toInt)))
            else done) := by
        rw [countFrom, Value.compare_integers, Value.add_integers]
        cases compared : Ord.compare start.toInt last.toInt with
        | gt => exact absurd (Int.compare_eq_gt.1 compared) past
        | lt | eq =>
          by_cases inside : InInt64 (start.toInt + step.toInt)
          next => simp only [if_pos inside]
          next => simp only [if_neg inside]
      rw [round, counters_succ (fun some => by split at some; assumption; omega), visits]
      by_cases inside : InInt64 (start.toInt + step.toInt)
      next =>
        have next := toInt_ofInt_of_inInt64 inside
        rw [if_pos inside] at enough
        rw [if_pos inside, if_pos inside, ih (by rw [next]; omega), next]
      next =>
        rw [if_neg inside, if_neg inside]
        rfl

end Effect

namespace Node

end Node

end Stencil
