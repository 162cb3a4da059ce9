import Stencil.Proofs.Fallible

set_option autoImplicit false

namespace Stencil.Stateful

open Fallible

variable {σ ε α β : Type}

theorem bind_apply (first : ExceptT ε (StateM σ) α) (next : α → ExceptT ε (StateM σ) β)
    (state : σ) :
    (first >>= next) state =
      match first state with
      | (.ok value, after) => next value after
      | (.error fault, after) => (.error fault, after) := by
  -- By definition; only the form of the match differs.
  change (ExceptT.bindCont next (first state).1) (first state).2 = _
  rcases first state with ⟨_ | _, after⟩ <;> rfl

theorem get_bind_apply (next : σ → ExceptT ε (StateM σ) α) (state : σ) :
    ((get : ExceptT ε (StateM σ) σ) >>= next) state = next state state := rfl

/-- Whether a step answers the same on related states and leaves them related. -/
def Keeps (related : σ → σ → Prop) (step : ExceptT ε (StateM σ) α) : Prop :=
  ∀ a b, related a b → (step a).1 = (step b).1 ∧ related (step a).2 (step b).2

variable {related : σ → σ → Prop}

theorem keeps_pure (value : α) :
    Keeps related (pure value : ExceptT ε (StateM σ) α) :=
  fun _ _ same => ⟨rfl, same⟩

theorem keeps_throw (fault : ε) : Keeps related (throw fault : ExceptT ε (StateM σ) α) :=
  fun _ _ same => ⟨rfl, same⟩

theorem keeps_modify {change : σ → σ}
    (kept : ∀ a b, related a b → related (change a) (change b)) :
    Keeps related (modify change : ExceptT ε (StateM σ) Unit) :=
  fun a b same => ⟨rfl, kept a b same⟩

theorem Keeps.bind {first : ExceptT ε (StateM σ) α} {next : α → ExceptT ε (StateM σ) β}
    (before : Keeps related first) (after : ∀ value, Keeps related (next value)) :
    Keeps related (first >>= next) := by
  intro a b same
  obtain ⟨result, left⟩ := before a b same
  rw [bind_apply, bind_apply]
  rcases firstA : first a with ⟨resultA, afterA⟩
  rcases firstB : first b with ⟨resultB, afterB⟩
  rw [firstA, firstB] at result left
  cases result
  cases resultA with
  | ok value => exact after value afterA afterB left
  | error fault => exact ⟨rfl, left⟩

theorem keeps_liftExcept (result : Except ε α) :
    Keeps related (liftExcept result : ExceptT ε (StateM σ) α) := by
  cases result with
  | ok value => exact keeps_pure value
  | error fault => exact keeps_throw fault

def Invariant (holds : σ → Prop) (a b : σ) : Prop :=
  a = b ∧ holds a

variable {holds : σ → Prop}

theorem Invariant.refl {state : σ} (known : holds state) : Invariant holds state state :=
  ⟨rfl, known⟩

theorem keeps_invariant {step : ExceptT ε (StateM σ) α}
    (kept : ∀ state, holds state → holds (step state).2) : Keeps (Invariant holds) step := by
  rintro a b ⟨rfl, known⟩
  exact ⟨rfl, rfl, kept a known⟩

-- Whether a step keeps a property of the state, with a result whose values are of one kind and
-- whose errors are of another.
def Sound (holds : σ → Prop) (gives : α → Prop) (kind : ε → Prop)
    (step : ExceptT ε (StateM σ) α) : Prop :=
  ∀ state, holds state → Yields gives kind (step state).1 ∧ holds (step state).2

variable {gives : α → Prop} {later : β → Prop} {kind : ε → Prop}

theorem Sound.of_run {step : ExceptT ε (StateM σ) α} (sound : Sound holds gives kind step)
    {state after : σ} {result : Except ε α} (known : holds state)
    (ran : step state = (result, after)) : Yields gives kind result ∧ holds after := by
  have whole := sound state known
  rwa [ran] at whole

theorem sound_pure {value : α} (given : gives value) :
    Sound holds gives kind (pure value : ExceptT ε (StateM σ) α) :=
  fun _ known => ⟨given, known⟩

theorem sound_throw {fault : ε} (ofKind : kind fault) :
    Sound holds gives kind (throw fault : ExceptT ε (StateM σ) α) :=
  fun _ known => ⟨ofKind, known⟩

theorem sound_modify {change : σ → σ} (kept : ∀ state, holds state → holds (change state)) :
    Sound holds (fun _ => True) kind (modify change : ExceptT ε (StateM σ) Unit) :=
  fun state known => ⟨trivial, kept state known⟩

theorem sound_liftExcept {result : Except ε α} (yields : Yields gives kind result) :
    Sound holds gives kind (liftExcept result : ExceptT ε (StateM σ) α) := by
  cases result with
  | ok value => exact sound_pure yields
  | error fault => exact sound_throw yields

theorem Sound.bind {first : ExceptT ε (StateM σ) α} {next : α → ExceptT ε (StateM σ) β}
    (before : Sound holds gives kind first)
    (after : ∀ value, gives value → Sound holds later kind (next value)) :
    Sound holds later kind (first >>= next) := by
  intro state known
  rw [bind_apply]
  rcases ran : first state with ⟨fault | value, middle⟩
  next => exact before.of_run known ran
  next =>
    obtain ⟨given, left⟩ := before.of_run known ran
    exact after value given middle left

end Stencil.Stateful
