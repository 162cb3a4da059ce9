import Stencil.Proofs.Stateful
import Stencil.Response.Action

set_option autoImplicit false

namespace Stencil

open Stateful

theorem Sink.write_cases (sink : Sink) (data : List UInt8) :
    (data ≠ [] ∧ sink.refuses sink.attempts = true ∧
      sink.write data = (.error .sinkUnavailable, { sink with attempts := sink.attempts + 1 })) ∨
    ((data = [] ∨ sink.refuses sink.attempts = false) ∧
      ∃ after : Sink, sink.write data = (.ok (), after) ∧
        after.refuses = sink.refuses ∧ after.bytes = sink.bytes ++ data) := by
  cases data with
  | nil => exact .inr ⟨.inl rfl, sink, rfl, rfl, (List.append_nil _).symm⟩
  | cons first rest =>
    by_cases refused : sink.refuses sink.attempts = true
    next => exact .inl ⟨List.cons_ne_nil _ _, refused, if_pos refused⟩
    next =>
      refine .inr ⟨.inr (by simpa using refused), _, if_neg refused, rfl, ?_⟩
      simp [bytes]

theorem Configuration.headerBytes_ne_nil (configuration : Configuration) :
    configuration.headerBytes ≠ [] := by
  have starts : "HTTP/1.1 ".toList ≠ [] := by simp
  have filled : configuration.header.toList ≠ [] := by
    unfold header
    simp only [String.toList_append, ne_eq, List.append_eq_nil_iff, starts, false_and,
      not_false_eq_true]
  intro empty
  unfold headerBytes Text.latin1Bytes at empty
  exact filled (List.map_eq_nil_iff.mp empty)

namespace Response

def preamble (response : Response) : List UInt8 :=
  if response.emitsHeader then response.configuration.headerBytes else []

def pending (response : Response) : List UInt8 :=
  if response.headerGenerated then [] else response.preamble

theorem preamble_eq_nil_iff (response : Response) :
    response.preamble = [] ↔ response.emitsHeader = false := by
  rw [preamble]
  cases response.emitsHeader <;> simp [response.configuration.headerBytes_ne_nil]

theorem send_apply (data : List UInt8) (response : Response) :
    send data response =
      ((response.sink.write data).1, { response with sink := (response.sink.write data).2 }) := rfl

theorem generateHeader_apply (response : Response) :
    generateHeader response =
      match response.sink.write response.preamble with
      | (.ok _, sink) => (.ok (), { response with sink, headerGenerated := true })
      | (.error fault, sink) => (.error fault, { response with sink }) := by
  rw [generateHeader, get_bind_apply, preamble]
  by_cases emits : response.emitsHeader = true
  next =>
    rw [if_pos emits, if_pos emits, bind_apply, send_apply]
    rcases response.sink.write response.configuration.headerBytes with ⟨_ | _, sink⟩ <;> rfl
  next =>
    -- Writing nothing is always answered ok, so the sink is left as it is.
    rw [if_neg emits, if_neg emits]
    rfl

theorem ensureHeader_apply (response : Response) :
    ensureHeader response =
      if response.headerGenerated then (.ok (), response) else generateHeader response := by
  rw [ensureHeader, get_bind_apply]
  by_cases generated : response.headerGenerated = true
  next => simp [generated]; rfl
  next => simp [generated]

theorem ensureHeader_cases (response : Response) :
    (response.headerGenerated = false ∧ response.emitsHeader = true ∧
      response.sink.refuses response.sink.attempts = true ∧
      ensureHeader response = (.error .sinkUnavailable,
        { response with sink := { response.sink with attempts := response.sink.attempts + 1 } })) ∨
    ((response.headerGenerated = false → response.emitsHeader = true →
        response.sink.refuses response.sink.attempts = false) ∧
      ∃ sink : Sink, ensureHeader response = (.ok (), { response with sink, headerGenerated := true }) ∧
        sink.refuses = response.sink.refuses ∧
        sink.bytes = response.sink.bytes ++ response.pending) := by
  rw [ensureHeader_apply, pending]
  by_cases generated : response.headerGenerated = true
  next =>
    rw [if_pos generated, if_pos generated]
    have same : response = { response with headerGenerated := true } := by rw [← generated]
    exact .inr ⟨by simp [generated], response.sink, congrArg _ same, rfl, (List.append_nil _).symm⟩
  next =>
    rw [if_neg generated, if_neg generated, generateHeader_apply]
    have isOpen : response.headerGenerated = false := by simpa using generated
    rcases response.sink.write_cases response.preamble with
      ⟨some, refused, wrote⟩ | ⟨accepted, sink, wrote, refuses, bytes⟩
    next =>
      have emits : response.emitsHeader = true := by
        simpa using mt response.preamble_eq_nil_iff.mpr some
      exact .inl ⟨isOpen, emits, refused, by rw [wrote]⟩
    next =>
      refine .inr ⟨fun _ emits => accepted.resolve_left ?_, sink, by rw [wrote], refuses, bytes⟩
      rw [response.preamble_eq_nil_iff, emits]
      decide

def Content.encode (charset : Text.Charset) : Content → List UInt8
  | .text content => charset.encode content.toList
  | .bytes data => data

inductive Content.Written (content : Content) (response : Response) :
    Except ResponseError Unit × Response → Prop
  | headerRefused (isOpen : response.headerGenerated = false) (emits : response.emitsHeader = true)
      (refused : response.sink.refuses response.sink.attempts = true) :
      Written content response (.error .sinkUnavailable,
        { response with sink := { response.sink with attempts := response.sink.attempts + 1 } })
  | refused {sink : Sink} {attempt : Nat}
      (header : response.headerGenerated = false → response.emitsHeader = true →
        response.sink.refuses response.sink.attempts = false)
      (refused : response.sink.refuses attempt = true)
      (refuses : sink.refuses = response.sink.refuses)
      (bytes : sink.bytes = response.sink.bytes ++ response.pending) :
      Written content response
        (.error .sinkUnavailable, { response with sink, headerGenerated := true })
  | delivered {sink : Sink}
      (header : response.headerGenerated = false → response.emitsHeader = true →
        response.sink.refuses response.sink.attempts = false)
      (refuses : sink.refuses = response.sink.refuses)
      (bytes : sink.bytes = response.sink.bytes ++ response.pending ++
        content.encode response.configuration.charset) :
      Written content response (.ok (), { response with sink, headerGenerated := true })

theorem Content.write_apply (content : Content) (response : Response) :
    content.write response =
      match ensureHeader response with
      | (.ok _, opened) => send (content.encode opened.configuration.charset) opened
      | (.error fault, after) => (.error fault, after) := by
  cases content with
  | text content =>
    rw [write, writeText, bind_apply]
    rcases ensureHeader response with ⟨_ | _, after⟩ <;> rfl
  | bytes data =>
    rw [write, writeBytes, bind_apply]
    rcases ensureHeader response with ⟨_ | _, after⟩ <;> rfl

theorem Content.written (content : Content) (response : Response) :
    content.Written response (content.write response) := by
  rw [write_apply]
  rcases ensureHeader_cases response with
    ⟨isOpen, emits, refused, ran⟩ | ⟨header, sink, ran, refuses, bytes⟩
  next =>
    rw [ran]
    exact .headerRefused isOpen emits refused
  next =>
    rw [ran]
    dsimp only
    rw [send_apply]
    rcases sink.write_cases (content.encode response.configuration.charset) with
      ⟨some, refused, wrote⟩ | ⟨accepted, after, wrote, kept, added⟩
    next =>
      rw [wrote]
      exact .refused header (refuses ▸ refused) refuses bytes
    next =>
      rw [wrote]
      exact .delivered header (kept.trans refuses) (by rw [added, bytes])

theorem Content.write_of_accepts (content : Content) {response : Response}
    (accepts : response.sink.refuses = fun _ => false) :
    ∃ sink : Sink, content.write response = (.ok (), { response with sink, headerGenerated := true }) ∧
      (sink.refuses = fun _ => false) ∧
      sink.bytes = response.sink.bytes ++ response.pending ++
        content.encode response.configuration.charset := by
  have written := content.written response
  generalize content.write response = ran at written
  cases written with
  | headerRefused _ _ refused => simp [accepts] at refused
  | refused _ refused => simp [accepts] at refused
  | @delivered sink header refuses bytes => exact ⟨sink, rfl, refuses.trans accepts, bytes⟩

def Setter.refusal? : Setter → Option ResponseError
  | .encoding label =>
    if (Text.Charset.ofLabel? label).isNone then some (.unsupportedEncoding label) else none
  | _ => none

def Setter.configured (configuration : Configuration) : Setter → Configuration
  | .mimeType value => { configuration with mimeType := value }
  | .encoding label =>
    { configuration with
      charset := (Text.Charset.ofLabel? label).getD configuration.charset, encoding := label }
  | .statusCode value => { configuration with statusCode := value }
  | .statusText value => { configuration with statusText := value }
  | .cookie value => { configuration with cookies := configuration.cookies ++ [value] }

theorem configure_apply (change : Configuration → Except ResponseError Configuration)
    (response : Response) :
    configure change response =
      if response.headerGenerated then (.error .headerAlreadyGenerated, response)
      else
        match change response.configuration with
        | .ok configuration => (.ok (), { response with configuration })
        | .error fault => (.error fault, response) := by
  rw [configure, get_bind_apply]
  by_cases generated : response.headerGenerated = true
  next =>
    rw [if_pos generated, if_pos generated]
    rfl
  next =>
    rw [if_neg generated, if_neg generated]
    change (match change response.configuration with
      | .ok configuration => (set { response with configuration } : Operation Unit)
      | .error fault => throw fault) response = _
    cases change response.configuration <;> rfl

theorem Setter.apply_eq (setter : Setter) (response : Response) :
    setter.apply response =
      if response.headerGenerated then (.error .headerAlreadyGenerated, response)
      else
        match setter.refusal? with
        | none => (.ok (), { response with configuration := setter.configured response.configuration })
        | some fault => (.error fault, response) := by
  cases setter with
  | encoding label =>
    rw [apply, setEncoding, configure_apply, refusal?, configured]
    cases Text.Charset.ofLabel? label <;> rfl
  | mimeType value => rw [apply, setMimeType, configure_apply]; rfl
  | statusCode value => rw [apply, setStatusCode, configure_apply]; rfl
  | statusText value => rw [apply, setStatusText, configure_apply]; rfl
  | cookie value => rw [apply, addCookie, configure_apply]; rfl

theorem setMimeType_cases (mimeType : String) (response : Response) :
    (response.headerGenerated = true ∧
      setMimeType mimeType response = (.error .headerAlreadyGenerated, response)) ∨
    (response.headerGenerated = false ∧ setMimeType mimeType response =
      (.ok (), { response with configuration := { response.configuration with mimeType } })) := by
  have applied := (Setter.mimeType mimeType).apply_eq response
  by_cases generated : response.headerGenerated = true
  next => exact .inl ⟨generated, applied.trans (if_pos generated)⟩
  next => exact .inr ⟨by simpa using generated, applied.trans (if_neg generated)⟩

theorem Change.apply_eq (made : Change) (response : Response) :
    ∃ persistent temporary, made.apply response = { response with persistent, temporary } := by
  cases made <;> exact ⟨_, _, rfl⟩

inductive Action.Performed (response : Response) :
    Action → Except ResponseError (Option String) × Response → Prop
  | wrote {content : Content} {result : Except ResponseError Unit} {after : Response}
      (written : content.Written response (result, after)) :
      Performed response (.write content) (result.map fun _ => none, after)
  | frozen {setter : Setter} (generated : response.headerGenerated = true) :
      Performed response (.configure setter) (.error .headerAlreadyGenerated, response)
  | configured {setter : Setter} (isOpen : response.headerGenerated = false)
      (allowed : setter.refusal? = none) :
      Performed response (.configure setter)
        (.ok none, { response with configuration := setter.configured response.configuration })
  | unsupported {setter : Setter} {fault : ResponseError}
      (isOpen : response.headerGenerated = false) (refused : setter.refusal? = some fault) :
      Performed response (.configure setter) (.error fault, response)
  | changed {made : Change} {persistent temporary : Scope} :
      Performed response (.change made) (.ok none, { response with persistent, temporary })
  | found {lookup : Lookup} {value : Option String} :
      Performed response (.look lookup) (.ok value, response)

theorem Action.performed (action : Action) (response : Response) :
    action.Performed response (action.perform response) := by
  cases action with
  | write content => exact .wrote (content.written response)
  | configure setter =>
    rw [perform, setter.apply_eq]
    by_cases generated : response.headerGenerated = true
    next =>
      rw [if_pos generated]
      exact .frozen generated
    next =>
      have isOpen : response.headerGenerated = false := by simpa using generated
      rw [if_neg generated]
      cases refusal : setter.refusal? with
      | none => exact .configured isOpen refusal
      | some fault => exact .unsupported isOpen refusal
  | change made =>
    obtain ⟨persistent, temporary, changed⟩ := made.apply_eq response
    rw [perform, changed]
    exact .changed
  | look lookup => exact .found

variable {α β : Type} {perform : α → Response → β × Response}

theorem series_cons (first : α) (rest : List α) (response : Response) :
    series perform (first :: rest) response =
      ((perform first response).1 :: (series perform rest (perform first response).2).1,
        (series perform rest (perform first response).2).2) := rfl

theorem series_related {related : Response → Response → Prop} {a b : Response}
    (step : ∀ one a b, related a b →
      (perform one a).1 = (perform one b).1 ∧ related (perform one a).2 (perform one b).2)
    (list : List α) (same : related a b) :
    (series perform list a).1 = (series perform list b).1 ∧
      related (series perform list a).2 (series perform list b).2 := by
  induction list generalizing a b with
  | nil => exact ⟨rfl, same⟩
  | cons first rest ih =>
    obtain ⟨answer, left⟩ := step first a b same
    obtain ⟨answers, after⟩ := ih left
    rw [series_cons, series_cons, answer, answers]
    exact ⟨rfl, after⟩

end Response

end Stencil
