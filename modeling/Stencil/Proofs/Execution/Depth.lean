import Stencil.Proofs.Execution.Footprint
import Stencil.Proofs.Execution.StackEffect

set_option autoImplicit false

namespace Stencil

open Stateful

namespace Element

def effectOfAll (list : List Element) : StackEffect :=
  .inTurn (list.map effect)

theorem effectOfAll_cons (first : Element) (rest : List Element) :
    effectOfAll (first :: rest) = first.effect.andThen (effectOfAll rest) := rfl

def depthFrom (depth : Nat) (list : List Element) : Nat :=
  list.foldl (fun depth one => one.effect.depthAfter depth) depth

/-- Whether every element finds as many values as it needs, counted from a depth. -/
def NeedsMet (depth : Nat) (list : List Element) : Prop :=
  ∀ before one after, list = before ++ one :: after → one.effect.need ≤ depthFrom depth before

theorem needsMet_nil (depth : Nat) : NeedsMet depth [] := by
  intro before one after same
  simp at same

theorem needsMet_cons {depth : Nat} {first : Element} {rest : List Element} :
    NeedsMet depth (first :: rest) ↔
      first.effect.need ≤ depth ∧ NeedsMet (first.effect.depthAfter depth) rest := by
  constructor
  next =>
    intro met
    refine ⟨met [] first rest rfl, fun before one after same => ?_⟩
    exact met (first :: before) one after (by rw [same, List.cons_append])
  next =>
    rintro ⟨now, later⟩ before one after same
    cases before with
    | nil =>
      cases same
      exact now
    | cons _ before =>
      obtain ⟨rfl, tail⟩ := List.cons.inj same
      exact later before one after tail

theorem needsMet_iff {depth : Nat} {list : List Element} :
    NeedsMet depth list ↔ (effectOfAll list).need ≤ depth := by
  induction list generalizing depth with
  | nil => exact ⟨fun _ => Nat.zero_le depth, fun _ => needsMet_nil depth⟩
  | cons first rest ih =>
    rw [needsMet_cons, ih]
    simp only [effectOfAll_cons, StackEffect.andThen, StackEffect.depthAfter]
    omega

theorem depthFrom_of_needsMet {depth : Nat} {list : List Element} (met : NeedsMet depth list) :
    depthFrom depth list + (effectOfAll list).need = depth + (effectOfAll list).result := by
  induction list generalizing depth with
  | nil => rfl
  | cons first rest ih =>
    obtain ⟨now, later⟩ := needsMet_cons.1 met
    have counted := ih later
    have enough := needsMet_iff.1 later
    simp only [depthFrom, List.foldl_cons, effectOfAll_cons, StackEffect.andThen,
      StackEffect.depthAfter] at *
    omega

end Element

namespace Evaluation

open Element

theorem hasEffect_elements (store : Store) (list : List Element) :
    HasEffect (effectOfAll list) (elements store list) := by
  induction list with
  | nil => exact hasEffect_pure ()
  | cons first rest ih => exact (hasEffect_element store first).bind fun _ => ih

theorem elements_append (store : Store) (before after : List Element) :
    elements store (before ++ after) = elements store before >>= fun _ => elements store after := by
  induction before with
  | nil => simp [elements]
  | cons first rest ih => simp [elements, ih]

theorem needsMet_of_elements {store : Store} {list : List Element} {frame after : Frame}
    (ran : elements store list frame = (.ok (), after)) :
    NeedsMet frame.stack.length list ∧ after.stack.length = depthFrom frame.stack.length list := by
  obtain ⟨need, depth⟩ := (hasEffect_elements store list).depth ran
  have met : NeedsMet frame.stack.length list := needsMet_iff.2 need
  have counted := depthFrom_of_needsMet met
  exact ⟨met, by omega⟩

end Evaluation

open Element in
/-- Behind every part of a list that an evaluation has passed, its stack is as deep as the count
along the elements says. If the count always meets what the next element needs, no value is missing;
if it once does not, the evaluation fails. So the elements alone decide how many values an output
tag writes. -/
theorem Evaluation.elements_depth (store : Store) (list : List Element) :
    (∀ frame passed rest after, list = passed ++ rest →
      elements store passed frame = (.ok (), after) →
      elements store list frame = elements store rest after ∧
        after.stack.length = depthFrom frame.stack.length passed) ∧
    (∀ frame : Frame, NeedsMet frame.stack.length list →
      ∀ consumer, (elements store list frame).1 ≠ .error (.stackUnderflow consumer)) ∧
    (∀ frame : Frame, ¬ NeedsMet frame.stack.length list → (elements store list frame).1 ≠ .ok ()) ∧
    ∀ limit machine, (Node.execute limit (.output list) machine).1 = .ok () →
      ∃ values evaluated, Execution.evaluate list machine = (.ok values, evaluated) ∧
        Node.execute limit (.output list) machine = Execution.writeValues values evaluated ∧
        values.length = depthFrom 0 list := by
  refine ⟨?passing, ?sufficient, ?necessary, ?written⟩
  case passing =>
    rintro frame passed rest after rfl ran
    rw [elements_append, bind_apply, ran]
    exact ⟨rfl, (needsMet_of_elements ran).2⟩
  case sufficient =>
    intro frame met consumer missing
    exact (hasEffect_elements store list).enough frame (needsMet_iff.1 met) _ missing consumer rfl
  case necessary =>
    intro frame unmet succeeded
    exact unmet (needsMet_of_elements (Prod.ext succeeded rfl)).1
  case written =>
    intro limit machine succeeded
    rw [Node.execute_output_apply] at *
    rcases ran : elements machine.store list ⟨[], machine.response⟩ with ⟨fault | done, frame⟩
    next =>
      rw [ran] at succeeded
      cases succeeded
    next =>
      refine ⟨frame.stack.reverse, ⟨machine.store, frame.response⟩, ?_, rfl, ?_⟩
      next =>
        rw [Execution.evaluate_apply, ran]
        rfl
      next =>
        rw [List.length_reverse]
        exact (needsMet_of_elements ran).2

open Element in
theorem Evaluation.elements_depth_of_dup :
    let store := Store.empty.push "i" (.integer 7)
    let response := Response.fresh false (fun _ => false) {} {} []
    let look : List Element := [.text "k", .var "i", .call "paramGet"]
    let list := look ++ [.call "dup", .call "swap"]
    elements store look ⟨[], response⟩ = (.ok (), ⟨[.integer 7], response⟩) ∧
      [Value.integer 7].length = depthFrom 0 look ∧
      NeedsMet 0 list ∧
      (∀ consumer, (elements store list ⟨[], response⟩).1 ≠ .error (.stackUnderflow consumer)) ∧
      ¬ NeedsMet 0 [.text "k", .operator .add] ∧
      (elements store [.text "k", .operator .add] ⟨[], response⟩).1 ≠ .ok () ∧
      (Node.execute 1 (.output list) ⟨store, response⟩).1 = .ok () ∧
      ∃ values evaluated, Execution.evaluate list ⟨store, response⟩ = (.ok values, evaluated) ∧
        values.length = depthFrom 0 list := by
  intro store response look list
  have looked : elements store look ⟨[], response⟩ = (.ok (), ⟨[.integer 7], response⟩) := rfl
  have met : NeedsMet 0 list := needsMet_iff.2 (by decide)
  have unmet : ¬ NeedsMet 0 [.text "k", .operator .add] := mt needsMet_iff.1 (by decide)
  obtain ⟨passing, sufficient, -, written⟩ := elements_depth store list
  obtain ⟨-, -, necessary, -⟩ := elements_depth store [.text "k", .operator .add]
  have counted := (passing ⟨[], response⟩ look _ _ rfl looked).2
  have executed : (Node.execute 1 (.output list) ⟨store, response⟩).1 = .ok () := by
    rw [Node.execute_output_apply]
    exact (Execution.writeValues_of_accepts [.integer 7, .integer 7] ⟨store, response⟩ rfl).1
  obtain ⟨values, evaluated, ran, -, count⟩ := written 1 ⟨store, response⟩ executed
  exact ⟨looked, counted, met, sufficient ⟨[], response⟩ met, unmet, necessary ⟨[], response⟩ unmet,
    executed, values, evaluated, ran, count⟩

end Stencil
