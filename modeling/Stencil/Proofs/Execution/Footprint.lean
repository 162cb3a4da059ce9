import Stencil.Proofs.Execution.Scope
import Stencil.Proofs.Response.Step

set_option autoImplicit false

namespace Stencil

open Stateful

theorem Text.Charset.encode_append (charset : Text.Charset) (text more : List Char) :
    charset.encode (text ++ more) = charset.encode text ++ charset.encode more := by
  cases charset <;> simp [encode, utf8Bytes, latin1Bytes]

theorem Text.Charset.encode_nil (charset : Text.Charset) : charset.encode [] = [] := by
  cases charset <;> rfl

namespace Response

variable {holds : Response → Prop}

theorem silentBisimulation_invariant
    (set : ∀ response persistent temporary, holds response →
      holds { response with persistent, temporary })
    (setMimeType : ∀ response mimeType, response.headerGenerated = false → holds response →
      holds { response with configuration := { response.configuration with mimeType } }) :
    SilentBisimulation (Invariant holds) where
  parameters same := congrArg _ same.1
  persistent same := congrArg _ same.1
  temporary same := congrArg _ same.1
  setPersistent _ _ same := same.1 ▸ .refl (set _ _ _ same.2)
  removePersistent _ same := same.1 ▸ .refl (set _ _ _ same.2)
  setTemporary _ _ same := same.1 ▸ .refl (set _ _ _ same.2)
  removeTemporary _ same := same.1 ▸ .refl (set _ _ _ same.2)
  setMimeType mimeType := by
    refine keeps_invariant fun response known => ?_
    rcases setMimeType_cases mimeType response with ⟨-, ran⟩ | ⟨isOpen, ran⟩
    next => rwa [ran]
    next =>
      rw [ran]
      exact setMimeType response mimeType isOpen known

theorem bisimulation_invariant (silent : SilentBisimulation (Invariant holds))
    (write : ∀ (content : Content) response, holds response → holds (content.write response).2) :
    Bisimulation (Invariant holds) where
  toSilentBisimulation := silent
  writeText text := keeps_invariant fun response => write (.text text) response
  writeBytes data := keeps_invariant fun response => write (.bytes data) response

def Within (origin response : Response) : Prop :=
  ∃ mimeType persistent temporary, response =
    { origin with
      configuration := { origin.configuration with mimeType }, persistent, temporary }

theorem Within.sink_eq {origin response : Response} (within : Within origin response) :
    response.sink = origin.sink := by
  obtain ⟨_, _, _, rfl⟩ := within
  rfl

-- Whether a response still has the parameters of its request and its configuration, but for the
-- mime type.
structure Follows (origin response : Response) : Prop where
  parameters : response.parameters = origin.parameters
  emitsHeader : response.emitsHeader = origin.emitsHeader
  configuration : ∃ mimeType, response.configuration = { origin.configuration with mimeType }

theorem silentBisimulation_within (origin : Response) :
    SilentBisimulation (Invariant (Within origin)) := by
  refine silentBisimulation_invariant ?_ ?_
  next =>
    rintro _ persistent temporary ⟨mimeType, _, _, rfl⟩
    exact ⟨mimeType, persistent, temporary, rfl⟩
  next =>
    rintro _ mimeType - ⟨_, persistent, temporary, rfl⟩
    exact ⟨mimeType, persistent, temporary, rfl⟩

theorem bisimulation_follows (origin : Response) : Bisimulation (Invariant (Follows origin)) := by
  refine bisimulation_invariant (silentBisimulation_invariant ?_ ?_) ?_
  next => exact fun response _ _ known => ⟨known.parameters, known.emitsHeader, known.configuration⟩
  next =>
    rintro response mimeType - ⟨parameters, emits, before, configuration⟩
    exact ⟨parameters, emits, mimeType, by rw [configuration]⟩
  next =>
    intro content response known
    have written := content.written response
    generalize content.write response = ran at written
    cases written <;> exact ⟨known.parameters, known.emitsHeader, known.configuration⟩

end Response

theorem Evaluation.within_elements (store : Store) (list : List Element) (frame : Frame) :
    Response.Within frame.response (elements store list frame).2.response :=
  have start : Invariant (Response.Within frame.response) frame.response frame.response :=
    .refl ⟨_, _, _, rfl⟩
  (keeps_elements (Response.silentBisimulation_within frame.response) store list frame frame
    ⟨rfl, start⟩).2.response.2

namespace Execution

theorem writeValues_of_accepts (values : List Value) (machine : Machine)
    (accepts : machine.response.sink.refuses = fun _ => false) :
    (writeValues values machine).1 = .ok () ∧
      (writeValues values machine).2.response.sink.bytes =
        machine.response.sink.bytes ++ (if values.isEmpty then [] else machine.response.pending) ++
          machine.response.configuration.charset.encode
            (values.flatMap fun value => value.display.toList) := by
  induction values generalizing machine with
  | nil =>
    refine ⟨rfl, ?_⟩
    change machine.response.sink.bytes = _
    simp [Text.Charset.encode_nil]
  | cons value rest ih =>
    obtain ⟨sink, wrote, accepted, bytes⟩ :=
      (Response.Content.text value.display).write_of_accepts accepts
    have wrote : Response.writeText value.display machine.response = _ := wrote
    rw [writeValues, bind_apply, respond_apply, wrote]
    dsimp only [Except.mapError]
    obtain ⟨result, later⟩ := ih { machine with
      response := { machine.response with sink, headerGenerated := true } } accepted
    refine ⟨result, later.trans ?_⟩
    have settled : (if rest.isEmpty then [] else Response.pending
        { machine.response with sink, headerGenerated := true }) = [] := ite_self _
    dsimp only
    rw [settled, bytes]
    simp [Text.Charset.encode_append, Response.Content.encode]

end Execution

namespace Node

theorem execute_output_apply (limit : Nat) (elements : List Element) (machine : Machine) :
    execute limit (.output elements) machine =
      match Evaluation.elements machine.store elements ⟨[], machine.response⟩ with
      | (.ok (), frame) => Execution.writeValues frame.stack.reverse ⟨machine.store, frame.response⟩
      | (.error fault, frame) => (.error (.failed fault), ⟨machine.store, frame.response⟩) := by
  rw [execute, Execution.bind_apply, Execution.evaluate_apply]
  rcases Evaluation.elements machine.store elements ⟨[], machine.response⟩ with ⟨_ | _, frame⟩ <;>
    rfl

end Node

theorem Document.invariant_executeWithin {holds : Response → Prop}
    (kept : Response.Bisimulation (Invariant holds)) (limit : Nat) (document : Document)
    (machine : Machine) (known : holds machine.response) :
    holds (document.executeWithin limit machine).2.response :=
  (document.keeps_executeWithin kept limit machine machine
    ⟨Store.Same.refl _, .refl known⟩).2.response.2

theorem Document.follows_executeWithin (limit : Nat) (document : Document) (machine : Machine) :
    Response.Follows machine.response (document.executeWithin limit machine).2.response :=
  invariant_executeWithin (Response.bisimulation_follows machine.response) limit document machine
    ⟨rfl, rfl, _, rfl⟩

/-- An evaluation writes nothing, whether it fails or not, and changes at most the mime type and the
parameters that a document may set. So an output tag that fails writes nothing, and one that is
evaluated to its end, on a sink that takes everything, writes the values left on the stack, the
lowest first, behind the header if that was not sent before. No document changes the rest of the
configuration or the parameters of the request. -/
theorem Node.execute_footprint (limit : Nat) :
    (∀ store list frame,
      Response.Within frame.response (Evaluation.elements store list frame).2.response) ∧
    (∀ elements machine fault frame,
      Evaluation.elements machine.store elements ⟨[], machine.response⟩ = (.error fault, frame) →
      (execute limit (.output elements) machine).1 = .error (.failed fault) ∧
      (execute limit (.output elements) machine).2.response.sink = machine.response.sink) ∧
    (∀ elements machine frame,
      Evaluation.elements machine.store elements ⟨[], machine.response⟩ = (.ok (), frame) →
      (machine.response.sink.refuses = fun _ => false) →
      (execute limit (.output elements) machine).1 = .ok () ∧
      (execute limit (.output elements) machine).2.response.sink.bytes =
        machine.response.sink.bytes ++ (if frame.stack.isEmpty then [] else frame.response.pending) ++
          frame.response.configuration.charset.encode
            (frame.stack.reverse.flatMap fun value => value.display.toList)) ∧
    ∀ document machine,
      Response.Follows machine.response (Document.executeWithin limit document machine).2.response := by
  refine ⟨Evaluation.within_elements, ?failing, ?succeeding, Document.follows_executeWithin limit⟩
  case failing =>
    intro elements machine fault frame failed
    have within := Evaluation.within_elements machine.store elements ⟨[], machine.response⟩
    rw [failed] at within
    rw [execute_output_apply, failed]
    exact ⟨rfl, within.sink_eq⟩
  case succeeding =>
    intro elements machine frame evaluated accepts
    have within := Evaluation.within_elements machine.store elements ⟨[], machine.response⟩
    rw [evaluated] at within
    have sink : frame.response.sink = machine.response.sink := within.sink_eq
    rw [execute_output_apply, evaluated]
    obtain ⟨result, bytes⟩ := Execution.writeValues_of_accepts frame.stack.reverse
      ⟨machine.store, frame.response⟩ (sink ▸ accepts)
    exact ⟨result, bytes.trans (by rw [List.isEmpty_reverse, sink])⟩

theorem Node.execute_footprint_of_failure :
    let failing : List Element := [.text "v", .text "k", .call "pparamSet", .operator .add]
    let machine : Machine := { response := Response.fresh true (fun _ => false) {} {} [] }
    (execute 1 (.output failing) machine).1 =
        .error (.failed (.stackUnderflow (.operator .add))) ∧
      (execute 1 (.output failing) machine).2.response.sink = machine.response.sink ∧
      (execute 1 (.output [.integer 1, .text "é"]) machine).1 = .ok () ∧
      (execute 1 (.output [.integer 1, .text "é"]) machine).2.response.sink.bytes =
        machine.response.configuration.headerBytes ++ Text.utf8Bytes ['1', 'é'] := by
  intro failing machine
  have failed : Evaluation.elements machine.store failing ⟨[], machine.response⟩ =
      (.error (.stackUnderflow (.operator .add)), ⟨[], machine.response.setPersistent "k" "v"⟩) := rfl
  have evaluated : Evaluation.elements machine.store [.integer 1, .text "é"] ⟨[], machine.response⟩ =
      (.ok (), ⟨[.text "é", .integer 1], machine.response⟩) := rfl
  obtain ⟨-, fails, succeeds, -⟩ := execute_footprint 1
  obtain ⟨fault, unwritten⟩ := fails failing machine _ _ failed
  obtain ⟨result, bytes⟩ := succeeds [.integer 1, .text "é"] machine _ evaluated rfl
  have texts : ([.text "é", .integer 1] : List Value).reverse.flatMap (fun value => value.display.toList) =
      ['1', 'é'] := by decide +kernel
  refine ⟨fault, unwritten, result, bytes.trans ?_⟩
  rw [texts]
  decide +kernel

-- The first tag that writes sends more than its values if the response has a header.
theorem Node.execute_output_behind_header :
    let machine : Machine := { response := Response.fresh true (fun _ => false) {} {} [] }
    Evaluation.elements machine.store [.text "x"] ⟨[], machine.response⟩ =
        (.ok (), ⟨[.text "x"], machine.response⟩) ∧
      (machine.response.sink.refuses = fun _ => false) ∧
      (execute 1 (.output [.text "x"]) machine).2.response.sink.bytes ≠
        machine.response.sink.bytes ++
          machine.response.configuration.charset.encode (Value.text "x").display.toList := by
  intro machine
  exact ⟨rfl, rfl, by decide +kernel⟩

end Stencil
