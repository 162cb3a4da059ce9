import Mathlib.Data.List.Forall2
import Stencil.Fallible

set_option autoImplicit false

namespace Stencil.Fallible

variable {ε ε' α β γ : Type}

theorem mapError_eq_ok_iff {f : ε → ε'} {result : Except ε α} {value : α} :
    result.mapError f = .ok value ↔ result = .ok value := by
  cases result <;> simp [Except.mapError]

theorem mapM_eq_ok_iff {f : α → Except ε β} {inputs : List α} {outputs : List β} :
    inputs.mapM f = .ok outputs ↔
      List.Forall₂ (fun input output => f input = .ok output) inputs outputs := by
  induction inputs generalizing outputs with
  | nil => simp [pure, Except.pure, eq_comm]
  | cons input rest ih =>
    rw [List.mapM_cons, List.forall₂_cons_left_iff]
    constructor
    next =>
      intro read
      obtain ⟨output, first, read⟩ := bind_eq_ok_iff.1 read
      obtain ⟨later, others, same⟩ := bind_eq_ok_iff.1 read
      exact ⟨output, later, first, ih.1 others, (Except.ok.inj same).symm⟩
    next =>
      rintro ⟨output, later, first, others, rfl⟩
      exact bind_eq_ok_iff.2 ⟨output, first, bind_eq_ok_iff.2 ⟨later, ih.2 others, rfl⟩⟩

theorem forall_mem_of_mapM {f : α → Except ε β} {inputs : List α} {outputs : List β}
    (read : inputs.mapM f = .ok outputs) {property : β → Prop}
    (each : ∀ input ∈ inputs, ∀ output, f input = .ok output → property output) :
    ∀ output ∈ outputs, property output := by
  have pairs := mapM_eq_ok_iff.1 read
  clear read
  induction pairs with
  | nil => simp
  | cons first _ ih =>
    obtain ⟨now, later⟩ := List.forall_mem_cons.1 each
    exact List.forall_mem_cons.2 ⟨now _ first, ih later⟩

theorem mapM_eq_some {f : α → Option β} {back : β → α}
    (inverse : ∀ input output, f input = some output → back output = input) {inputs : List α}
    {outputs : List β} (mapped : inputs.mapM f = some outputs) :
    outputs.map back = inputs ∧ ∀ output ∈ outputs, f (back output) = some output := by
  induction inputs generalizing outputs with
  | nil =>
    cases mapped
    exact ⟨rfl, List.forall_mem_nil _⟩
  | cons input rest ih =>
    rw [List.mapM_cons] at mapped
    obtain ⟨output, first, mapped⟩ := Option.bind_eq_some_iff.1 mapped
    obtain ⟨later, others, same⟩ := Option.bind_eq_some_iff.1 mapped
    cases same
    have here := inverse input output first
    obtain ⟨back, found⟩ := ih others
    exact ⟨by rw [List.map_cons, here, back], List.forall_mem_cons.2 ⟨here ▸ first, found⟩⟩

theorem exists_mapM_eq_some {f : α → Option β} {inputs : List α}
    (each : ∀ input ∈ inputs, ∃ output, f input = some output) :
    ∃ outputs, inputs.mapM f = some outputs := by
  induction inputs with
  | nil => exact ⟨[], rfl⟩
  | cons input rest ih =>
    obtain ⟨⟨output, first⟩, others⟩ := List.forall_mem_cons.1 each
    obtain ⟨later, mapped⟩ := ih others
    exact ⟨output :: later, by simp [List.mapM_cons, first, mapped]⟩

theorem mapM_id_of_ok (values : List α) :
    ((values.map Except.ok).mapM id : Except ε (List α)) = .ok values := by
  induction values with
  | nil => rfl
  | cons value rest ih =>
    rw [List.map_cons, List.mapM_cons, ih]
    rfl

theorem mapM_id_of_error (values : List α) (fault : ε) (later : List (Except ε α)) :
    (values.map Except.ok ++ Except.error fault :: later).mapM id = Except.error fault := by
  rw [List.mapM_append, mapM_id_of_ok]
  rfl

def FaultsOnly (kind : ε → Prop) (result : Except ε α) : Prop :=
  ∀ fault, result = .error fault → kind fault

variable {kind : ε → Prop}

theorem faultsOnly_ok (value : α) : FaultsOnly kind (.ok value) :=
  nofun

theorem faultsOnly_error {fault : ε} (known : kind fault) :
    FaultsOnly kind (.error fault : Except ε α) := by
  rintro _ ⟨⟩
  exact known

theorem FaultsOnly.map {result : Except ε α} (known : FaultsOnly kind result) (change : α → β) :
    FaultsOnly kind (result.map change) :=
  fun fault failed => known fault (map_eq_error_iff.1 failed)

theorem FaultsOnly.bind {result : Except ε α} {next : α → Except ε β}
    (first : FaultsOnly kind result)
    (later : ∀ value, result = .ok value → FaultsOnly kind (next value)) :
    FaultsOnly kind (result >>= next) := by
  cases result with
  | ok value => exact later value rfl
  | error fault => exact faultsOnly_error (first fault rfl)

theorem faultsOnly_mapM {f : α → Except ε β} {inputs : List α}
    (each : ∀ input ∈ inputs, FaultsOnly kind (f input)) : FaultsOnly kind (inputs.mapM f) := by
  induction inputs with
  | nil => exact faultsOnly_ok []
  | cons input rest ih =>
    obtain ⟨first, others⟩ := List.forall_mem_cons.1 each
    rw [List.mapM_cons]
    exact first.bind fun _ _ => (ih others).bind fun _ _ => faultsOnly_ok _

def Yields (gives : α → Prop) (kind : ε → Prop) (result : Except ε α) : Prop :=
  match result with
  | .ok value => gives value
  | .error fault => kind fault

variable {gives : α → Prop}

theorem Yields.mono {result : Except ε α} {wider : ε → Prop} (known : Yields gives kind result)
    (le : ∀ fault, kind fault → wider fault) : Yields gives wider result := by
  cases result with
  | ok value => exact known
  | error fault => exact le fault known

theorem Yields.map {result : Except ε α} {change : α → β} {later : β → Prop}
    (known : Yields (fun value => later (change value)) kind result) :
    Yields later kind (result.map change) := by
  cases result <;> exact known

theorem Yields.mapError {result : Except ε α} {change : ε → ε'} {kind' : ε' → Prop}
    (known : Yields gives (fun fault => kind' (change fault)) result) :
    Yields gives kind' (result.mapError change) := by
  cases result <;> exact known

theorem Yields.bind {result : Except ε α} {next : α → Except ε β} {later : β → Prop}
    (first : Yields gives kind result)
    (rest : ∀ value, gives value → Yields later kind (next value)) :
    Yields later kind (result >>= next) := by
  cases result with
  | ok value => exact rest value first
  | error fault => exact first

theorem Yields.faultsOnly {result : Except ε α} (known : Yields gives kind result) :
    FaultsOnly kind result := by
  cases result with
  | ok value => exact faultsOnly_ok value
  | error fault => exact faultsOnly_error known

end Stencil.Fallible
