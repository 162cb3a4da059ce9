import Stencil.Proofs.Execution.Transcript
import Stencil.Session

set_option autoImplicit false

namespace Stencil

open Stateful
open Text (Charset)

namespace Response

/-- What stays true of a response whatever is done to it: its label names its charset, and its sink
refuses what it always refused and holds the header and something behind it. -/
structure Coherent (refuses : Nat → Bool) (response : Response) : Prop where
  label : Charset.ofLabel? response.configuration.encoding = some response.configuration.charset
  refuses : response.sink.refuses = refuses
  holds : ∃ sent, Holds sent response

variable {refuses : Nat → Bool} {response : Response}

theorem coherent_fresh (emitsHeader : Bool) (refuses : Nat → Bool) (parameters persistent : Scope)
    (cookies : List Cookie) :
    Coherent refuses (fresh emitsHeader refuses parameters persistent cookies) where
  label := (by decide +kernel : Charset.ofLabel? "UTF-8" = some .utf8)
  refuses := rfl
  holds := ⟨_, holds_fresh emitsHeader refuses parameters persistent cookies⟩

theorem Setter.label_configured (setter : Setter) (allowed : setter.refusal? = none)
    {configuration : Configuration}
    (label : Charset.ofLabel? configuration.encoding = some configuration.charset) :
    Charset.ofLabel? (setter.configured configuration).encoding =
      some (setter.configured configuration).charset := by
  cases setter with
  | encoding given =>
    rw [configured]
    cases known : Charset.ofLabel? given with
    | none => simp [refusal?, known] at allowed
    | some charset => rfl
  | _ => exact label

theorem Coherent.perform (coherent : Coherent refuses response) (action : Action) :
    Coherent refuses (action.perform response).2 where
  label := by
    have performed := action.performed response
    generalize action.perform response = ran at performed
    cases performed with
    | wrote written => cases written <;> exact coherent.label
    | @configured setter isOpen allowed => exact setter.label_configured allowed coherent.label
    | _ => exact coherent.label
  refuses := (action.perform_fixed response).2.trans coherent.refuses
  holds :=
    let ⟨_, holds⟩ := coherent.holds
    ⟨_, holds.perform action⟩

theorem bisimulation_coherent (refuses : Nat → Bool) :
    Bisimulation (Invariant (Coherent refuses)) := by
  refine bisimulation_invariant (silentBisimulation_invariant ?_ ?_) ?_
  next =>
    rintro response persistent temporary ⟨label, refuses, sent, holds⟩
    exact ⟨label, refuses, sent, holds.set persistent temporary⟩
  next =>
    rintro response mimeType isOpen ⟨label, refuses, sent, holds⟩
    exact ⟨label, refuses, sent, holds.setMimeType isOpen mimeType⟩
  next => exact fun content response coherent => coherent.perform (.write content)

theorem bisimulation_frozen (configuration : Configuration) :
    Bisimulation (Invariant fun response =>
      response.headerGenerated = true ∧ response.configuration = configuration) := by
  refine bisimulation_invariant (silentBisimulation_invariant ?_ ?_) ?_
  next => exact fun response persistent temporary known => known
  next =>
    rintro response mimeType isOpen ⟨generated, -⟩
    exact absurd (isOpen.symm.trans generated) Bool.false_ne_true
  next =>
    rintro content response ⟨generated, rfl⟩
    obtain ⟨out, configuration, -⟩ := (Action.write content).perform_frozen generated
    exact ⟨out, configuration⟩

end Response

namespace Session

open Response

theorem Step.coherent_perform (step : Step) {refuses : Nat → Bool} {response : Response}
    (coherent : Coherent refuses response) : Coherent refuses (step.perform response).2 := by
  cases step with
  | act action => exact coherent.perform action
  | execute document =>
    exact document.invariant_executeWithin (bisimulation_coherent refuses) roundLimit _ coherent

theorem coherent_series (steps : List Step) {refuses : Nat → Bool} {response : Response}
    (coherent : Coherent refuses response) :
    Coherent refuses (series Step.perform steps response).2 := by
  induction steps generalizing response with
  | nil => exact coherent
  | cons first rest ih => exact ih (first.coherent_perform coherent)

/-- Whatever a host and its documents have done to a response, the label in its header names the
charset in which its texts are written. A document that is then executed to its end, on a sink that
takes everything, adds the characters that it says and a line end, in that charset, behind the
header if that was not sent before. Who decodes them by the label gets them back, but for those that
the charset lacks. -/
theorem execute_in_declared_charset (emitsHeader : Bool) (refuses : Nat → Bool)
    (parameters persistent : Scope) (cookies : List Cookie) (steps : List Step) :
    let before := (series Step.perform steps
      (fresh emitsHeader refuses parameters persistent cookies)).2
    Charset.ofLabel? before.configuration.encoding = some before.configuration.charset ∧
    ∀ (document : Document) after, (refuses = fun _ => false) →
      document.execute ⟨{}, before⟩ = (.ok (), after) →
      let said := document.characters roundLimit ⟨{}, before⟩ ++ ['\n']
      ∃ body,
        after.response.sink.bytes = before.sink.bytes ++
          (if before.headerGenerated then [] else after.response.preamble) ++ body ∧
        (before.headerGenerated = false → before.sink.bytes = []) ∧
        after.response.configuration.charset.Represents said body ∧
        (Charset.ofLabel? after.response.configuration.encoding).bind (·.decode? body) =
          some (said.map after.response.configuration.charset.kept) := by
  intro before
  have coherent : Coherent refuses before :=
    coherent_series steps (coherent_fresh emitsHeader refuses parameters persistent cookies)
  refine ⟨coherent.label, fun document after accepts ran => ?_⟩
  intro said
  replace ran : document.executeWithin roundLimit ⟨{}, before⟩ = (.ok (), after) := ran
  have left := document.invariant_executeWithin (bisimulation_coherent refuses) roundLimit
    ⟨{}, before⟩ coherent
  have follows := document.follows_executeWithin roundLimit ⟨{}, before⟩
  rw [ran] at left follows
  obtain ⟨sent, holds⟩ := coherent.holds
  have delivers : Delivers sent before := { holds with accepts := coherent.refuses.trans accepts }
  obtain ⟨generated, delivered⟩ := Document.delivers_executeWithin delivers ran
  refine ⟨after.response.configuration.charset.encode said, ?_,
    fun isOpen => (holds.unwritten isOpen).1, Charset.represents_encode _ _, ?_⟩
  next =>
    rw [delivered.written generated, List.append_assoc]
    cases out : before.headerGenerated with
    | false =>
      obtain ⟨empty, nothing⟩ := holds.unwritten out
      simp [empty, nothing, said]
    | true =>
      have frozen := document.invariant_executeWithin (bisimulation_frozen before.configuration)
        roundLimit ⟨{}, before⟩ ⟨out, rfl⟩
      rw [ran] at frozen
      have configuration : after.response.configuration = before.configuration := frozen.2
      have preamble : after.response.preamble = before.preamble := by
        rw [Response.preamble, Response.preamble, configuration, follows.emitsHeader]
      simp [holds.written out, preamble, configuration, said]
  next => rw [left.label, Option.bind_some, Charset.decode?_encode]

theorem execute_in_declared_charset_of_refused_label :
    let steps : List Step :=
      [.act (.configure (.encoding "Latin-1")), .act (.configure (.encoding "utf-16"))]
    let before := (series Step.perform steps (fresh true (fun _ => false) {} {} [])).2
    let document : Document :=
      ⟨[.text "é", .loop ⟨"n", .integer 1, .integer 2, none⟩ [.output [.text "€", .var "n"]]]⟩
    ∃ after body, document.execute ⟨{}, before⟩ = (.ok (), after) ∧
      after.response.sink.bytes = after.response.preamble ++ body ∧
      (Charset.ofLabel? "Latin-1").bind (·.decode? body) = some "é?1?2\n".toList := by
  intro steps before document
  have succeeds : (document.execute ⟨{}, before⟩).1.isOk = true := by decide +kernel
  have label : (document.execute ⟨{}, before⟩).2.response.configuration.encoding = "Latin-1" := by
    decide +kernel
  have charset : (document.execute ⟨{}, before⟩).2.response.configuration.charset = .latin1 := by
    decide +kernel
  have said : document.characters roundLimit ⟨{}, before⟩ = "é€1€2".toList := by decide +kernel
  rcases ran : document.execute ⟨{}, before⟩ with ⟨_ | ⟨⟩, after⟩ <;>
    rw [ran] at succeeds label charset
  next => cases succeeds
  next =>
    obtain ⟨body, bytes, -, -, read⟩ :=
      (execute_in_declared_charset true (fun _ => false) {} {} [] steps).2 document after rfl ran
    rw [label, charset, said] at read
    exact ⟨after, body, rfl, bytes, read⟩

end Session

end Stencil
