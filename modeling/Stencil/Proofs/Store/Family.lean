import Mathlib.Data.List.Nodup
import Mathlib.Logic.Function.Basic
import Stencil.Proofs.Store

set_option autoImplicit false

namespace Stencil

-- Pending values of every name, the last pushed first.
abbrev Family := String → List Value

namespace Store

inductive Operation
  | push (name : String) (value : Value)
  | pop (name : String)
  | peek (name : String)

abbrev Answer := Except RuntimeError (Option Value)

namespace Operation

def name : Operation → String
  | push name _ => name
  | pop name => name
  | peek name => name

def onStore (operation : Operation) (store : Store) : Answer × Store :=
  match operation with
  | push name value => (.ok none, store.push name value)
  | pop name =>
    let (result, left) := Store.pop name store
    (result.map some, left)
  | peek name => ((store.peek name).map some, store)

def topOf (name : String) (pending : List Value) : Answer :=
  match pending with
  | [] => .error (.noSuchEntry name)
  | value :: _ => .ok (some value)

def onFamily (operation : Operation) (family : Family) : Answer × Family :=
  match operation with
  | push name value => (.ok none, Function.update family name (value :: family name))
  | pop name => (topOf name (family name), Function.update family name (family name).tail)
  | peek name => (topOf name (family name), family)

variable {σ : Type}

def inTurn (perform : Operation → σ → Answer × σ) : List Operation → σ → List Answer × σ
  | [], state => ([], state)
  | first :: rest, state =>
    let (answer, next) := perform first state
    let (answers, last) := inTurn perform rest next
    (answer :: answers, last)

theorem inTurn_cons (perform : Operation → σ → Answer × σ) (first : Operation)
    (rest : List Operation) (state : σ) :
    inTurn perform (first :: rest) state =
      ((perform first state).1 :: (inTurn perform rest (perform first state).2).1,
        (inTurn perform rest (perform first state).2).2) := rfl

end Operation

def names (store : Store) : List String :=
  store.entries.map Prod.fst

/-- Whether a store keeps the lists of a family that are not empty, each once, and nothing else. -/
structure Keeps (store : Store) (family : Family) : Prop where
  stack (name : String) : store.stack name = family name
  pending : ∀ entry ∈ store.entries, entry.2 ≠ []
  distinct : store.names.Nodup

theorem keeps_empty : Keeps empty fun _ => [] where
  stack _ := rfl
  pending := nofun
  distinct := List.nodup_nil

theorem mem_names_iff {store : Store} (pending : ∀ entry ∈ store.entries, entry.2 ≠ [])
    (name : String) : name ∈ store.names ↔ store.stack name ≠ [] := by
  obtain ⟨entries⟩ := store
  induction entries with
  | nil => simp [names, stack]
  | cons entry rest ih =>
    obtain ⟨key, values⟩ := entry
    obtain ⟨now, later⟩ := List.forall_mem_cons.1 pending
    have others : name ∈ rest.map Prod.fst ↔ (rest.lookup name).getD [] ≠ [] := ih later
    by_cases found : name = key
    next => simpa [names, stack, Entries.lookup_cons_eq, found] using now
    next => simpa [names, stack, Entries.lookup_cons_eq, found] using others

theorem names_setStack (store : Store) (name : String) (values : List Value) :
    (store.setStack name values).names =
      (if values = [] then [] else [name]) ++ store.names.filter fun other => other ≠ name := by
  rw [names, entries_setStack, List.map_append, names, List.filter_map]
  cases values <;> simp [Function.comp_def]

theorem Keeps.setStack {store : Store} {family : Family} (keeps : Keeps store family)
    (name : String) (values : List Value) :
    Keeps (store.setStack name values) (Function.update family name values) where
  stack other := by
    rw [stack_setStack, Function.update_apply, keeps.stack]
  pending entry member := by
    rw [entries_setStack, List.mem_append, List.mem_filter] at member
    rcases member with added | ⟨kept, -⟩
    next =>
      split at added
      next => cases added
      next some =>
        rw [List.mem_singleton] at added
        rwa [added]
    next => exact keeps.pending entry kept
  distinct := by
    rw [names_setStack]
    have others := keeps.distinct.filter fun other => decide (other ≠ name)
    split
    next => exact others
    next => exact List.nodup_cons.2 ⟨by simp, others⟩

namespace Operation

theorem onStore_keeps {store : Store} {family : Family} (keeps : Keeps store family)
    (operation : Operation) :
    (operation.onStore store).1 = (operation.onFamily family).1 ∧
      Keeps (operation.onStore store).2 (operation.onFamily family).2 := by
  cases operation with
  | push name value =>
    refine ⟨rfl, ?_⟩
    change Keeps (store.setStack name (value :: store.stack name)) _
    rw [keeps.stack]
    exact keeps.setStack name (value :: family name)
  | peek name =>
    refine ⟨?_, keeps⟩
    rw [onStore, onFamily, Store.peek, keeps.stack]
    cases family name <;> rfl
  | pop name =>
    have popped := keeps.setStack name (family name).tail
    simp only [onStore, onFamily, pop_eq, keeps.stack]
    cases pending : family name with
    | nil =>
      have unchanged : Function.update family name [] = family := by
        rw [← pending]
        exact Function.update_eq_self name family
      rw [List.tail_nil, unchanged]
      exact ⟨rfl, keeps⟩
    | cons value rest =>
      rw [pending] at popped
      exact ⟨rfl, popped⟩

theorem inTurn_keeps {store : Store} {family : Family} (keeps : Keeps store family)
    (operations : List Operation) :
    (inTurn onStore operations store).1 = (inTurn onFamily operations family).1 ∧
      Keeps (inTurn onStore operations store).2 (inTurn onFamily operations family).2 := by
  induction operations generalizing store family with
  | nil => exact ⟨rfl, keeps⟩
  | cons first rest ih =>
    obtain ⟨answer, next⟩ := onStore_keeps keeps first
    obtain ⟨answers, last⟩ := ih next
    rw [inTurn_cons, inTurn_cons, answer, answers]
    exact ⟨rfl, last⟩

theorem onFamily_of_ne {operation : Operation} {other : String} (apart : operation.name ≠ other)
    (family : Family) : (operation.onFamily family).2 other = family other := by
  cases operation with
  | push name value => exact Function.update_of_ne (Ne.symm apart) _ _
  | pop name => exact Function.update_of_ne (Ne.symm apart) _ _
  | peek name => rfl

theorem onFamily_congr {a b : Family} {operation : Operation}
    (same : a operation.name = b operation.name) :
    (operation.onFamily a).1 = (operation.onFamily b).1 ∧
      (operation.onFamily a).2 operation.name = (operation.onFamily b).2 operation.name := by
  cases operation <;> simp_all [onFamily, name]

def answersOf (name : String) (operations : List Operation) (answers : List Answer) :
    List Answer :=
  ((operations.zip answers).filter fun turn => turn.1.name = name).map Prod.snd

theorem answersOf_inTurn {a b : Family} {name : String} (same : a name = b name)
    (operations : List Operation) :
    answersOf name operations (inTurn onFamily operations a).1 =
      (inTurn onFamily (operations.filter fun operation => operation.name = name) b).1 := by
  induction operations generalizing a b with
  | nil => rfl
  | cons first rest ih =>
    rw [inTurn_cons, answersOf, List.zip_cons_cons]
    by_cases named : first.name = name
    next =>
      subst named
      obtain ⟨answer, left⟩ := onFamily_congr same
      rw [List.filter_cons_of_pos (by simp), List.filter_cons_of_pos (by simp), inTurn_cons,
        List.map_cons, answer]
      exact congrArg _ (ih left)
    next =>
      rw [List.filter_cons_of_neg (by simpa using named),
        List.filter_cons_of_neg (by simpa using named)]
      exact ih ((onFamily_of_ne named a).trans same)

end Operation

open Operation in
/-- Operations on a store, in any number and order, answer as on a family of lists that are all
empty at first, and a name is answered as if no other name had been used. Behind them the depths
are the lengths of the lists, and the names of the store, each once, are those whose lists are not
empty. -/
theorem refines_family (operations : List Operation) :
    let run := inTurn onStore operations Store.empty
    let lists := inTurn onFamily operations fun _ => []
    run.1 = lists.1 ∧
      (∀ name, answersOf name operations run.1 =
        (inTurn onStore (operations.filter fun operation => operation.name = name)
          Store.empty).1) ∧
      (∀ (operation : Operation) (other : String), operation.name ≠ other →
        let next := (operation.onStore run.2).2
        (∀ question : Operation, question.name = other →
          (question.onStore next).1 = (question.onStore run.2).1) ∧
          next.depth other = run.2.depth other ∧ next.isEmpty other = run.2.isEmpty other) ∧
      (∀ name, run.2.depth name = (lists.2 name).length ∧
        (run.2.isEmpty name = true ↔ lists.2 name = []) ∧
        (name ∈ run.2.names ↔ lists.2 name ≠ [])) ∧
      (∀ entry ∈ run.2.entries, entry.2 ≠ []) ∧ run.2.names.Nodup := by
  intro run lists
  obtain ⟨answers, keeps⟩ := inTurn_keeps keeps_empty operations
  refine ⟨answers, fun name => ?_, fun operation other apart => ?_, fun name => ?_,
    keeps.pending, keeps.distinct⟩
  next =>
    have alone := inTurn_keeps keeps_empty
      (operations.filter fun operation => operation.name = name)
    rw [alone.1, ← answersOf_inTurn rfl operations, ← answers]
  next =>
    intro next
    have after := (onStore_keeps keeps operation).2
    have unchanged : next.stack other = run.2.stack other := by
      rw [after.stack, keeps.stack]
      exact onFamily_of_ne apart _
    refine ⟨?_, by rw [depth, unchanged, depth], by rw [isEmpty, unchanged, isEmpty]⟩
    rintro question rfl
    rw [(onStore_keeps after question).1, (onStore_keeps keeps question).1]
    exact (onFamily_congr (onFamily_of_ne apart _)).1
  next =>
    have stack : run.2.stack name = lists.2 name := keeps.stack name
    refine ⟨by rw [depth, stack], by rw [isEmpty, stack, List.isEmpty_iff], ?_⟩
    rw [mem_names_iff keeps.pending, stack]

open Operation in
theorem refines_family_of_interleaving :
    let operations : List Operation :=
      [.push "i" (.integer 1), .push "j" (.integer 2), .pop "i", .pop "i", .peek "j"]
    let again : Operation := .push "i" (.integer 3)
    let look : Operation := .peek "j"
    let run := inTurn onStore operations Store.empty
    let next := (again.onStore run.2).2
    run.1 = [.ok none, .ok none, .ok (some (.integer 1)), .error (.noSuchEntry "i"),
        .ok (some (.integer 2))] ∧
      "i" ∉ run.2.names ∧ "j" ∈ run.2.names ∧ run.2.names.Nodup ∧ again.name ≠ "j" ∧
      (look.onStore next).1 = (look.onStore run.2).1 ∧ next.depth "j" = 1 := by
  intro operations again look run next
  obtain ⟨answers, -, apart, lists, -, distinct⟩ := refines_family operations
  have others : again.name ≠ "j" := by decide
  obtain ⟨same, depth, -⟩ := apart again "j" others
  obtain ⟨-, -, first⟩ := lists "i"
  obtain ⟨length, -, second⟩ := lists "j"
  exact ⟨answers, mt first.1 (not_not.2 rfl), second.2 nofun, distinct, others, same look rfl,
    depth.trans length⟩

end Store

end Stencil
