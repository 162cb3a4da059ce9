import Stencil.Proofs.Fallible
import Stencil.Value.Arithmetic

set_option autoImplicit false

namespace Stencil

open Fallible

namespace RuntimeError

-- Errors of values that are no numbers once they were coerced, and of a charset that no document
-- has the means to choose.
def isUnreachable : RuntimeError → Bool
  | unsupportedValue _ | response (.unsupportedEncoding _) => true
  | _ => false

def isOfCounting : RuntimeError → Bool
  | cannotParse _ | unordered _ _ => true
  | _ => false

theorem isOfCounting_of_cannotParse {fault : RuntimeError}
    (unread : ∃ content, fault = .cannotParse content) : fault.isOfCounting = true := by
  obtain ⟨content, rfl⟩ := unread
  rfl

theorem isUnreachable_of_isOfCounting {fault : RuntimeError} (known : fault.isOfCounting = true) :
    fault.isUnreachable = false := by
  cases fault with
  | cannotParse content => rfl
  | unordered left right => rfl
  | _ => cases known

theorem isUnreachable_of_cannotParse {fault : RuntimeError}
    (unread : ∃ content, fault = .cannotParse content) : fault.isUnreachable = false :=
  isUnreachable_of_isOfCounting (isOfCounting_of_cannotParse unread)

end RuntimeError

namespace Value

def isNumber : Value → Bool
  | integer _ | double _ => true
  | text _ | absent => false

theorem ne_absent_of_isNumber {value : Value} (number : value.isNumber = true) :
    value ≠ absent := by
  rintro rfl
  cases number

def IsReading (result : Except RuntimeError Value) : Prop :=
  Yields (fun number => number.isNumber = true)
    (fun fault => ∃ content, fault = .cannotParse content) result

theorem isReading_coerce (value : Value) : IsReading value.coerce := by
  cases value with
  | text content =>
    rw [coerce]
    split
    next => cases Number.readFloat? content.toList <;> simp [IsReading, Yields, isNumber]
    next => cases Number.readInt64? content.toList <;> simp [IsReading, Yields, isNumber]
  | _ => rfl

theorem exists_promote {number : Value} (isNumber : number.isNumber = true) :
    ∃ x, number.promote = .ok x := by
  cases number with
  | integer n => exact ⟨_, rfl⟩
  | double x => exact ⟨_, rfl⟩
  | _ => cases isNumber

theorem yields_promote {number : Value} (isNumber : number.isNumber = true)
    (kind : RuntimeError → Prop) : Yields (fun _ => True) kind number.promote := by
  obtain ⟨x, promoted⟩ := exists_promote isNumber
  rw [promoted]
  exact trivial

theorem yields_toFloat (value : Value) :
    Yields (fun _ => True) (fun fault => ∃ content, fault = .cannotParse content) value.toFloat :=
  value.isReading_coerce.bind fun _ isNumber => yields_promote isNumber _

def FailsOn (op : Operator) (fault : RuntimeError) : Prop :=
  fault = .overflow op ∨ op = .divide ∧ fault = .divisionByZero

theorem yields_integerResult (op : Operator) (a b : Int64) :
    Yields (fun result => result.isNumber = true) (FailsOn op) (integerResult op a b) := by
  unfold integerResult
  dsimp only
  split
  next byZero => exact .inr ⟨byZero.1, rfl⟩
  next =>
    split
    next => rfl
    next => exact .inl rfl

theorem yields_doubleResult (op : Operator) (a b : Float) :
    Yields (fun result => result.isNumber = true) (FailsOn op) (doubleResult op a b) := by
  cases op with
  | divide =>
    rw [doubleResult]
    split
    next => exact .inr ⟨rfl, rfl⟩
    next => rfl
  | _ => rfl

theorem yields_apply (op : Operator) (left right : Value) :
    Yields (fun result => result.isNumber = true)
      (fun fault => (∃ content, fault = .cannotParse content) ∨ FailsOn op fault)
      (apply op left right) := by
  refine (left.isReading_coerce.mono fun _ => .inl).bind fun a first => ?_
  refine (right.isReading_coerce.mono fun _ => .inl).bind fun b second => ?_
  split
  next => exact (yields_integerResult op _ _).mono fun _ => .inr
  next =>
    refine (yields_promote first _).bind fun x _ => (yields_promote second _).bind fun y _ => ?_
    exact (yields_doubleResult op x y).mono fun _ => .inr

theorem isUnreachable_of_apply {op : Operator} {fault : RuntimeError}
    (known : (∃ content, fault = .cannotParse content) ∨ FailsOn op fault) :
    fault.isUnreachable = false := by
  rcases known with unread | rfl | ⟨-, rfl⟩
  next => exact RuntimeError.isUnreachable_of_cannotParse unread
  next => rfl
  next => rfl

theorem yields_compare (left right : Value) :
    Yields (fun _ => True) (fun fault => fault.isOfCounting = true) (compare left right) := by
  have unread (fault : RuntimeError) : _ → fault.isOfCounting = true :=
    RuntimeError.isOfCounting_of_cannotParse
  refine (left.isReading_coerce.mono unread).bind fun a first => ?_
  refine (right.isReading_coerce.mono unread).bind fun b second => ?_
  split
  next => exact trivial
  next =>
    refine (yields_promote first _).bind fun x _ => (yields_promote second _).bind fun y _ => ?_
    dsimp only
    -- The difference is below zero, zero, above it, or none of these.
    split; next => exact trivial
    split; next => exact trivial
    split; next => exact trivial
    exact rfl

end Value

end Stencil
