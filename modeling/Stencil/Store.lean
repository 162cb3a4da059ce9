import Stencil.Entries
import Stencil.RuntimeError

set_option autoImplicit false

namespace Stencil

-- Names with their stacks, top first.
structure Store where
  entries : List (String × List Value) := []
  deriving DecidableEq

namespace Store

def empty : Store := {}

def stack (store : Store) (name : String) : List Value :=
  (store.entries.lookup name).getD []

-- Replaces the stack of a name; an empty stack leaves no entry.
def setStack (store : Store) (name : String) (stack : List Value) : Store :=
  let others := store.entries.filter fun entry => entry.1 ≠ name
  ⟨if stack.isEmpty then others else (name, stack) :: others⟩

def push (store : Store) (name : String) (value : Value) : Store :=
  store.setStack name (value :: store.stack name)

def pop (name : String) : ExceptT RuntimeError (StateM Store) Value := do
  let store ← get
  match store.stack name with
  | [] => throw (.noSuchEntry name)
  | value :: rest =>
    set (store.setStack name rest)
    return value

def peek (store : Store) (name : String) : Except RuntimeError Value :=
  match store.stack name with
  | [] => .error (.noSuchEntry name)
  | value :: _ => .ok value

def isEmpty (store : Store) (name : String) : Bool :=
  (store.stack name).isEmpty

def depth (store : Store) (name : String) : Nat :=
  (store.stack name).length

@[simp] theorem stack_setStack (store : Store) (name other : String) (stack : List Value) :
    (store.setStack name stack).stack other =
      if other = name then stack else store.stack other := by
  unfold setStack Store.stack
  cases stack with
  | nil =>
    simp only [List.isEmpty_nil, if_true, Entries.lookup_filter_ne]
    split <;> rfl
  | cons value rest =>
    simp only [List.isEmpty_cons, Bool.false_eq_true, if_false, Entries.lookup_cons_eq,
      Entries.lookup_filter_ne]
    split <;> simp_all

end Store

end Stencil
