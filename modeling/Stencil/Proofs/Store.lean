import Stencil.Store

set_option autoImplicit false

namespace Stencil.Store

theorem entries_setStack (store : Store) (name : String) (values : List Value) :
    (store.setStack name values).entries =
      (if values = [] then [] else [(name, values)]) ++
        store.entries.filter fun entry => entry.1 ≠ name := by
  cases values <;> simp [setStack]

def Same (a b : Store) : Prop :=
  ∀ name, a.stack name = b.stack name

variable {a b base : Store} {name : String} {value : Value}

theorem Same.refl (store : Store) : store.Same store :=
  fun _ => rfl

theorem Same.trans (first : a.Same b) (second : b.Same base) : a.Same base :=
  fun name => (first name).trans (second name)

theorem stack_push (store : Store) (name other : String) (value : Value) :
    (store.push name value).stack other =
      if other = name then value :: store.stack name else store.stack other :=
  stack_setStack store name other _

theorem Same.push (same : a.Same b) (name : String) (value : Value) :
    (a.push name value).Same (b.push name value) := by
  intro other
  rw [stack_push, stack_push, same name, same other]

theorem Same.setStack (same : a.Same b) (name : String) (stack : List Value) :
    (a.setStack name stack).Same (b.setStack name stack) := by
  intro other
  rw [stack_setStack, stack_setStack, same other]

theorem Same.peek (same : a.Same b) (name : String) : a.peek name = b.peek name := by
  rw [Store.peek, Store.peek, same name]

theorem pop_eq (name : String) (store : Store) :
    pop name store =
      match store.stack name with
      | [] => (.error (.noSuchEntry name), store)
      | value :: rest => (.ok value, store.setStack name rest) := by
  change (match store.stack name with
    | [] => _
    | value :: rest => _ : ExceptT RuntimeError (StateM Store) Value) store = _
  cases store.stack name <;> rfl

theorem Same.pop (same : a.Same b) (name : String) :
    (pop name a).1 = (pop name b).1 ∧ (pop name a).2.Same (pop name b).2 := by
  rw [pop_eq, pop_eq, same name]
  cases b.stack name with
  | nil => exact ⟨rfl, same⟩
  | cons value rest => exact ⟨rfl, same.setStack name rest⟩

theorem peek_of_same_push (same : a.Same (base.push name value)) : a.peek name = .ok value := by
  rw [peek, same name, stack_push, if_pos rfl]

theorem pop_of_same_push (same : a.Same (base.push name value)) :
    ∃ rest, pop name a = (.ok value, rest) ∧ rest.Same base := by
  have top : a.stack name = value :: base.stack name := by
    rw [same name, stack_push, if_pos rfl]
  refine ⟨a.setStack name (base.stack name), by rw [pop_eq, top], fun other => ?_⟩
  rw [stack_setStack]
  split
  next isName => rw [isName]
  next notName => rw [same other, stack_push, if_neg notName]

end Stencil.Store
