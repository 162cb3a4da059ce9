import Stencil.Proofs.Execution.Scope
import Stencil.Proofs.Response.Step
import Stencil.Session

set_option autoImplicit false

namespace Stencil

open Stateful

def Configuration.withoutCookies (configuration : Configuration) : Configuration :=
  { configuration with cookies := [] }

namespace Response

/-- A response with a header and one without, on sinks that take everything, after the same was done
to both. They may differ in their cookies. -/
structure Twins (headed headless : Response) : Prop where
  parameters : headed.parameters = headless.parameters
  persistent : headed.persistent = headless.persistent
  temporary : headed.temporary = headless.temporary
  generated : headed.headerGenerated = headless.headerGenerated
  configuration : headed.configuration.withoutCookies = headless.configuration.withoutCookies
  emits : headed.emitsHeader = true
  silent : headless.emitsHeader = false
  accepts : headed.sink.refuses = fun _ => false
  accepted : headless.sink.refuses = fun _ => false
  unwritten : headed.headerGenerated = false → headed.sink.bytes = [] ∧ headless.sink.bytes = []
  written : headed.headerGenerated = true →
    headed.sink.bytes = headed.configuration.headerBytes ++ headless.sink.bytes

theorem twins_fresh (parameters persistent : Scope) (cookies : List Cookie) :
    Twins (fresh true (fun _ => false) parameters persistent cookies)
      (fresh false (fun _ => false) parameters persistent []) where
  parameters := rfl
  persistent := rfl
  temporary := rfl
  generated := rfl
  configuration := rfl
  emits := rfl
  silent := rfl
  accepts := rfl
  accepted := rfl
  unwritten _ := ⟨rfl, rfl⟩
  written := nofun

namespace Twins

variable {headed headless : Response}

theorem charset (twins : Twins headed headless) :
    headed.configuration.charset = headless.configuration.charset := by
  have same := congrArg Configuration.charset twins.configuration
  exact same

theorem mimeType (twins : Twins headed headless) :
    headed.configuration.mimeType = headless.configuration.mimeType := by
  have same := congrArg Configuration.mimeType twins.configuration
  exact same

theorem bytes_append_pending (twins : Twins headed headless) :
    headed.sink.bytes ++ headed.pending =
      headed.configuration.headerBytes ++ (headless.sink.bytes ++ headless.pending) := by
  rw [pending, pending, ← twins.generated]
  cases generated : headed.headerGenerated with
  | false =>
    obtain ⟨empty, emptyBody⟩ := twins.unwritten generated
    simp [empty, emptyBody, preamble, twins.emits, twins.silent]
  | true => simp [twins.written generated]

end Twins

theorem Content.keeps_write (content : Content) : Keeps Twins content.write := by
  intro headed headless twins
  obtain ⟨sink, wrote, accepts, bytes⟩ := content.write_of_accepts twins.accepts
  obtain ⟨body, wroteBody, accepted, bytesBody⟩ := content.write_of_accepts twins.accepted
  rw [wrote, wroteBody]
  refine ⟨rfl, { twins with
    generated := rfl, accepts, accepted, unwritten := nofun, written := fun _ => ?_ }⟩
  change sink.bytes = headed.configuration.headerBytes ++ body.bytes
  rw [bytes, bytesBody, twins.bytes_append_pending, twins.charset]
  simp

theorem Setter.configured_congr {a b : Configuration} (setter : Setter)
    (same : a.withoutCookies = b.withoutCookies) :
    (setter.configured a).withoutCookies = (setter.configured b).withoutCookies := by
  simp only [Configuration.withoutCookies, Configuration.mk.injEq] at same
  cases setter <;> simp [configured, Configuration.withoutCookies, same]

theorem Setter.keeps_apply (setter : Setter) : Keeps Twins setter.apply := by
  intro headed headless twins
  rw [setter.apply_eq, setter.apply_eq]
  by_cases generated : headed.headerGenerated = true
  next =>
    rw [if_pos generated, if_pos (twins.generated ▸ generated)]
    exact ⟨rfl, twins⟩
  next =>
    rw [if_neg generated, if_neg (twins.generated ▸ generated)]
    cases setter.refusal? with
    | some fault => exact ⟨rfl, twins⟩
    | none =>
      exact ⟨rfl, { twins with
        configuration := setter.configured_congr twins.configuration
        written := fun out => absurd out generated }⟩

theorem Twins.bisimulation : Response.Bisimulation Twins where
  parameters := Twins.parameters
  persistent := Twins.persistent
  temporary := Twins.temporary
  setPersistent name value twins :=
    { twins with persistent := congrArg (·.set name value) twins.persistent }
  removePersistent name twins :=
    { twins with persistent := congrArg (·.remove name) twins.persistent }
  setTemporary name value twins :=
    { twins with temporary := congrArg (·.set name value) twins.temporary }
  removeTemporary name twins :=
    { twins with temporary := congrArg (·.remove name) twins.temporary }
  setMimeType value := (Setter.mimeType value).keeps_apply
  writeText text := (Content.text text).keeps_write
  writeBytes data := (Content.bytes data).keeps_write

theorem Twins.change {headed headless : Response} (twins : Twins headed headless) (made : Change) :
    Twins (made.apply headed) (made.apply headless) := by
  cases made with
  | setPersistent name value => exact bisimulation.setPersistent name value twins
  | removePersistent name => exact bisimulation.removePersistent name twins
  | setTemporary name value => exact bisimulation.setTemporary name value twins
  | removeTemporary name => exact bisimulation.removeTemporary name twins

theorem Twins.perform {headed headless : Response} (twins : Twins headed headless)
    (action : Action) :
    (action.perform headed).1 = (action.perform headless).1 ∧
      Twins (action.perform headed).2 (action.perform headless).2 := by
  cases action with
  | write content =>
    obtain ⟨result, after⟩ := content.keeps_write headed headless twins
    exact ⟨congrArg (Except.map fun _ => none) result, after⟩
  | configure setter =>
    obtain ⟨result, after⟩ := setter.keeps_apply headed headless twins
    exact ⟨congrArg (Except.map fun _ => none) result, after⟩
  | change made => exact ⟨rfl, twins.change made⟩
  | look lookup =>
    refine ⟨?_, twins⟩
    cases lookup with
    | parameter name => rw [Action.perform, Action.perform, Lookup.find, Lookup.find, twins.parameters]
    | persistent name => rw [Action.perform, Action.perform, Lookup.find, Lookup.find, twins.persistent]
    | temporary name => rw [Action.perform, Action.perform, Lookup.find, Lookup.find, twins.temporary]

end Response

namespace Session

open Response

theorem Step.perform_twins (step : Step) {headed headless : Response}
    (twins : Twins headed headless) :
    (step.perform headed).1 = (step.perform headless).1 ∧
      Twins (step.perform headed).2 (step.perform headless).2 := by
  cases step with
  | act action =>
    obtain ⟨answer, after⟩ := twins.perform action
    exact ⟨congrArg (Except.mapError _) answer, after⟩
  | execute document =>
    obtain ⟨result, after⟩ := document.keeps_executeWithin Twins.bisimulation roundLimit
      ⟨{}, headed⟩ ⟨{}, headless⟩ ⟨Store.Same.refl _, twins⟩
    exact ⟨congrArg (Except.map fun _ => none) result, after.response⟩

/-- A session has the same answers with and without a header, and leaves the same parameters; the
header, made from the configuration at the end, is all that is added to the output. -/
theorem series_headed_eq_headless (parameters persistent : Scope) (cookies : List Cookie)
    (steps : List Step) :
    let headed := series Step.perform steps
      (fresh true (fun _ => false) parameters persistent cookies)
    let headless := series Step.perform steps
      (fresh false (fun _ => false) parameters persistent [])
    headed.1 = headless.1 ∧
      headed.2.parameters = headless.2.parameters ∧
      headed.2.persistent = headless.2.persistent ∧
      headed.2.temporary = headless.2.temporary ∧
      headed.2.configuration.mimeType = headless.2.configuration.mimeType ∧
      headed.2.headerGenerated = headless.2.headerGenerated ∧
      (headed.2.headerGenerated = true →
        headed.2.sink.bytes = headed.2.configuration.headerBytes ++ headless.2.sink.bytes) ∧
      (headed.2.headerGenerated = false →
        headed.2.sink.bytes = [] ∧ headless.2.sink.bytes = []) := by
  intro headed headless
  obtain ⟨answers, twins⟩ : headed.1 = headless.1 ∧ Twins headed.2 headless.2 :=
    series_related (fun step _ _ twins => step.perform_twins twins) steps
      (twins_fresh parameters persistent cookies)
  exact ⟨answers, twins.parameters, twins.persistent, twins.temporary, twins.mimeType,
    twins.generated, twins.written, twins.unwritten⟩

theorem series_headed_eq_headless_of_late_mimeType :
    let steps : List Step :=
      [.act (.configure (.mimeType "a/b")), .execute ⟨[.output [.text "c/d", .call "setMimeType"]]⟩,
        .execute ⟨[.output [.text "e/f", .call "setMimeType"]]⟩]
    let headed := series Step.perform steps (fresh true (fun _ => false) {} {} [])
    headed.1 = [.ok none, .ok none, .error (.failed (.response .headerAlreadyGenerated))] ∧
      headed.2.sink.bytes = headed.2.configuration.headerBytes ++ ['\n'.toUInt8] := by
  intro steps headed
  obtain ⟨answers, _, _, _, _, _, written, _⟩ := series_headed_eq_headless {} {} [] steps
  exact ⟨answers.trans rfl, written (by decide +kernel)⟩

end Session

end Stencil
