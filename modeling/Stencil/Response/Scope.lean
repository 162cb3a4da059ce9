import Stencil.Entries

set_option autoImplicit false

namespace Stencil

-- Texts by name. Setting a name replaces its entry, so a name has at most one.
structure Scope where
  entries : List (String × String) := []
  deriving DecidableEq, Repr

namespace Scope

def empty : Scope := {}

def get? (scope : Scope) (name : String) : Option String :=
  scope.entries.lookup name

def remove (scope : Scope) (name : String) : Scope :=
  ⟨scope.entries.filter fun entry => entry.1 ≠ name⟩

def set (scope : Scope) (name value : String) : Scope :=
  ⟨(name, value) :: (scope.remove name).entries⟩

-- Sets pairs one after another, so the last of a name wins.
def setAll (scope : Scope) (pairs : List (String × String)) : Scope :=
  pairs.foldl (fun scope pair => scope.set pair.1 pair.2) scope

def ofPairs (pairs : List (String × String)) : Scope :=
  empty.setAll pairs

def names (scope : Scope) : List String :=
  (scope.entries.map Prod.fst).mergeSort fun a b => a ≤ b

def agrees (a b : Scope) : Bool :=
  (a.entries ++ b.entries).all fun entry => a.get? entry.1 == b.get? entry.1

@[simp] theorem get?_remove (scope : Scope) (name other : String) :
    (scope.remove name).get? other = if other = name then none else scope.get? other :=
  Entries.lookup_filter_ne scope.entries name other

@[simp] theorem get?_set (scope : Scope) (name value other : String) :
    (scope.set name value).get? other = if other = name then some value else scope.get? other := by
  simp only [set, remove, get?, Entries.lookup_cons_eq, Entries.lookup_filter_ne]
  split <;> rfl

theorem get?_empty (name : String) : empty.get? name = none := rfl

end Scope

end Stencil
