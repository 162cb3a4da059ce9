import Stencil.Proofs.Number.RoundTrip
import Stencil.Proofs.Response.History
import Stencil.Value.Arithmetic

set_option autoImplicit false

namespace Stencil

open Response (Deed Ledger latest? series)

namespace Value

def isFinite : Value → Bool
  | integer _ => true
  | double x => Number.Binary64.isFinite x
  | text _ | absent => false

theorem coerce_of_isFinite {number : Value} (finite : number.isFinite = true) :
    number.coerce = .ok number := by
  cases number with
  | integer n => rfl
  | double x => rfl
  | _ => cases finite

theorem coerce_display {number : Value} (finite : number.isFinite = true) :
    (text number.display).coerce = .ok number := by
  cases number with
  | integer n =>
    rw [coerce, display, String.toList_ofList, Number.looksFractional_integerText,
      Number.readInt64?_integerText]
    rfl
  | double x =>
    have readable : Number.DoubleStyle.value.Readable := .inr rfl
    rw [coerce, display, String.toList_ofList,
      Number.looksFractional_doubleText readable finite, Number.readFloat?_doubleText readable finite]
    rfl
  | _ => cases finite

section

variable {left right twin other : Value}

theorem apply_congr (op : Operator) (first : twin.coerce = left.coerce)
    (second : other.coerce = right.coerce) : apply op twin other = apply op left right := by
  rw [apply, apply, first, second]

theorem compare_congr (first : twin.coerce = left.coerce) (second : other.coerce = right.coerce) :
    twin.compare other = left.compare right := by
  rw [compare, compare, first, second]

theorem toFloat_congr (same : twin.coerce = left.coerce) : twin.toFloat = left.toFloat := by
  rw [toFloat, toFloat, same]

end

-- Whether a value is another one, or the text of another one that is a finite number.
inductive Restates : Value → Value → Prop
  | same (value : Value) : Restates value value
  | stored {number : Value} (finite : number.isFinite = true) :
      Restates (text number.display) number

theorem Restates.coerce {twin value : Value} (restates : twin.Restates value) :
    twin.coerce = value.coerce := by
  cases restates with
  | same => rfl
  | stored finite => rw [coerce_display finite, coerce_of_isFinite finite]

end Value

namespace Response.Ledger

theorem setter_apply (ledger : Ledger) (name : String) (value : Value) (rest : List Value)
    (response : Response) :
    ∃ after, ledger.setter.call ⟨.text name :: value :: rest, response⟩ = (.ok (), ⟨rest, after⟩) ∧
      (ledger.scope after).get? name = some value.display := by
  cases ledger with
  | persistent =>
    refine ⟨response.setPersistent name value.display, rfl, ?_⟩
    simp [scope, setPersistent]
  | temporary =>
    refine ⟨response.setTemporary name value.display, rfl, ?_⟩
    simp [scope, setTemporary]

theorem getter_apply (ledger : Ledger) (name : String) (default : Value) (rest : List Value)
    (response : Response) :
    ledger.getter.call ⟨default :: .text name :: rest, response⟩ =
      (.ok (), ⟨((ledger.scope response).get? name).elim default .text :: rest, response⟩) := by
  cases ledger <;> rfl

end Response.Ledger

namespace Value

/-- A finite number and its text are the same to every operation, to every comparison and as a
double. So a number that is stored under a name, and fetched after things that put nothing else
under that name there, computes as it did before. -/
theorem display_computes_alike {number : Value} (finite : number.isFinite = true) :
    (text number.display).coerce = .ok number ∧
    (∀ op left right twin other, twin.Restates left → other.Restates right →
      apply op twin other = apply op left right ∧ twin.compare other = left.compare right ∧
        twin.toFloat = left.toFloat) ∧
    ∀ (ledger : Ledger) name stack response,
      ∃ stored, ledger.setter.call ⟨text name :: number :: stack, response⟩ =
          (.ok (), ⟨stack, stored⟩) ∧
        ∀ history default rest, latest? ledger name history = none →
          let after := (series Deed.perform history stored).2
          ∃ fetched, ledger.getter.call ⟨default :: text name :: rest, after⟩ =
              (.ok (), ⟨fetched :: rest, after⟩) ∧ fetched.Restates number := by
  refine ⟨coerce_display finite, fun op left right twin other first second => ?_,
    fun ledger name stack response => ?_⟩
  next =>
    exact ⟨apply_congr op first.coerce second.coerce, compare_congr first.coerce second.coerce,
      toFloat_congr first.coerce⟩
  next =>
    obtain ⟨stored, ran, holds⟩ := ledger.setter_apply name number stack response
    refine ⟨stored, ran, fun history default rest untouched => ?_⟩
    have found := Response.get?_series history stored ledger name
    rw [Response.remembered, untouched, Option.map_none, Option.getD_none, holds] at found
    refine ⟨text number.display, ?_, .stored finite⟩
    rw [ledger.getter_apply, found]
    rfl

theorem display_computes_alike_of_minusZero :
    let number := double (Float.ofBits 0x8000000000000000)
    let history : List Deed := [.call .pparamSet [.text "k", .integer 1]]
    number.isFinite = true ∧ number.display = "-0.0" ∧
      apply .multiply (.text "-0.0") (.integer 1) = apply .multiply number (.integer 1) ∧
      ∃ stored, Builtin.tparamSet.call ⟨[.text "k", number], {}⟩ = (.ok (), ⟨[], stored⟩) ∧
        ∃ fetched, Builtin.tparamGet.call
            ⟨[.absent, .text "k"], (series Deed.perform history stored).2⟩ =
          (.ok (), ⟨[fetched], (series Deed.perform history stored).2⟩) ∧
          fetched.coerce = .ok number := by
  intro number history
  have finite : number.isFinite = true := by decide +kernel
  have shown : number.display = "-0.0" := by decide +kernel
  obtain ⟨counts, alike, storing⟩ := display_computes_alike finite
  obtain ⟨stored, ran, fetching⟩ := storing .temporary "k" [] {}
  obtain ⟨fetched, got, restates⟩ := fetching history .absent [] rfl
  have multiplied := (alike .multiply _ _ _ _ (.stored finite) (.same (.integer 1))).1
  rw [shown] at multiplied
  exact ⟨finite, shown, multiplied, stored, ran, fetched, got, restates.coerce⟩

end Value

end Stencil
