import Mathlib.Data.List.Forall2
import Stencil.Proofs.Response.Step

set_option autoImplicit false

namespace Stencil.Response

def Action.delivery (charset : Text.Charset) :
    Action → Except ResponseError (Option String) → List UInt8
  | .write content, .ok _ => content.encode charset
  | _, _ => []

def delivered (charset : Text.Charset) (actions : List Action)
    (answers : List (Except ResponseError (Option String))) : List UInt8 :=
  (actions.zip answers).flatMap fun exchange => exchange.1.delivery charset exchange.2

/-- Whether the sink holds the header, if there is one, and what was sent. Only at the end is it
known in which charset that is; as long as it may change, nothing was sent in any. -/
structure Holds (sent : Text.Charset → List UInt8) (response : Response) : Prop where
  unwritten : response.headerGenerated = false →
    response.sink.bytes = [] ∧ ∀ charset, sent charset = []
  written : response.headerGenerated = true →
    response.sink.bytes = response.preamble ++ sent response.configuration.charset

variable {response : Response} {sent : Text.Charset → List UInt8}

theorem holds_fresh (emitsHeader : Bool) (refuses : Nat → Bool) (parameters persistent : Scope)
    (cookies : List Cookie) :
    Holds (fun _ => []) (fresh emitsHeader refuses parameters persistent cookies) where
  unwritten _ := ⟨rfl, fun _ => rfl⟩
  written := nofun

theorem Holds.bytes_append_pending (holds : Holds sent response) :
    response.sink.bytes ++ response.pending =
      response.preamble ++ sent response.configuration.charset := by
  rw [pending]
  cases generated : response.headerGenerated with
  | false =>
    obtain ⟨empty, nothing⟩ := holds.unwritten generated
    simp [empty, nothing]
  | true => simp [holds.written generated]

theorem Holds.idle {after : Response} (holds : Holds sent response)
    (bytes : after.sink.bytes = response.sink.bytes)
    (generated : after.headerGenerated = response.headerGenerated)
    (settled : response.headerGenerated = true →
      after.preamble = response.preamble ∧ after.configuration = response.configuration) :
    Holds (fun charset => sent charset ++ []) after where
  unwritten isOpen := by
    obtain ⟨empty, nothing⟩ := holds.unwritten (generated ▸ isOpen)
    exact ⟨bytes.trans empty, fun charset => by rw [nothing, List.append_nil]⟩
  written out := by
    have before := generated ▸ out
    obtain ⟨preamble, configuration⟩ := settled before
    rw [bytes, preamble, configuration, List.append_nil]
    exact holds.written before

theorem Holds.perform (holds : Holds sent response) (action : Action) :
    Holds (fun charset => sent charset ++ action.delivery charset (action.perform response).1)
      (action.perform response).2 := by
  have before := holds.bytes_append_pending
  have performed := action.performed response
  generalize action.perform response = ran at performed
  cases performed with
  | @wrote content _ _ written =>
    cases written with
    | headerRefused isOpen emits refused => exact holds.idle rfl rfl fun _ => ⟨rfl, rfl⟩
    | @refused sink _ header refused refuses bytes =>
      refine ⟨nofun, fun _ => ?_⟩
      change sink.bytes = response.preamble ++ (sent response.configuration.charset ++ [])
      rw [bytes, before, List.append_nil]
    | @delivered sink header refuses bytes =>
      refine ⟨nofun, fun _ => ?_⟩
      change sink.bytes = response.preamble ++
        (sent response.configuration.charset ++ content.encode response.configuration.charset)
      rw [bytes, before, List.append_assoc]
  | frozen generated => exact holds.idle rfl rfl fun _ => ⟨rfl, rfl⟩
  | configured isOpen allowed => exact holds.idle rfl rfl fun out => by simp [isOpen] at out
  | unsupported isOpen refused => exact holds.idle rfl rfl fun _ => ⟨rfl, rfl⟩
  | changed => exact holds.idle rfl rfl fun _ => ⟨rfl, rfl⟩
  | found => exact holds.idle rfl rfl fun _ => ⟨rfl, rfl⟩

theorem Holds.series (holds : Holds sent response) (actions : List Action) :
    Holds (fun charset =>
        sent charset ++ delivered charset actions (series Action.perform actions response).1)
      (series Action.perform actions response).2 := by
  induction actions generalizing sent response with
  | nil => exact holds.idle rfl rfl fun _ => ⟨rfl, rfl⟩
  | cons first rest ih =>
    rw [series_cons]
    have after := ih (holds.perform first)
    simp only [List.append_assoc] at after
    exact after

theorem Action.perform_fixed (action : Action) (response : Response) :
    (action.perform response).2.emitsHeader = response.emitsHeader ∧
      (action.perform response).2.sink.refuses = response.sink.refuses := by
  have performed := action.performed response
  generalize action.perform response = ran at performed
  cases performed with
  | wrote written =>
    cases written with
    | headerRefused => exact ⟨rfl, rfl⟩
    | refused header refused refuses bytes => exact ⟨rfl, refuses⟩
    | delivered header refuses bytes => exact ⟨rfl, refuses⟩
  | _ => exact ⟨rfl, rfl⟩

theorem series_fixed (actions : List Action) (response : Response) :
    (series Action.perform actions response).2.emitsHeader = response.emitsHeader ∧
      (series Action.perform actions response).2.sink.refuses = response.sink.refuses := by
  induction actions generalizing response with
  | nil => exact ⟨rfl, rfl⟩
  | cons first rest ih =>
    obtain ⟨emits, refuses⟩ := first.perform_fixed response
    obtain ⟨emitsAfter, refusesAfter⟩ := ih (first.perform response).2
    rw [series_cons]
    exact ⟨emitsAfter.trans emits, refusesAfter.trans refuses⟩

theorem Action.perform_frozen (generated : response.headerGenerated = true) (action : Action) :
    (action.perform response).2.headerGenerated = true ∧
      (action.perform response).2.configuration = response.configuration ∧
      ∀ setter, action = .configure setter →
        (action.perform response).1 = .error .headerAlreadyGenerated := by
  have performed := action.performed response
  generalize action.perform response = ran at performed
  cases performed with
  | wrote written =>
    cases written with
    | headerRefused isOpen => simp [generated] at isOpen
    | refused => exact ⟨rfl, rfl, nofun⟩
    | delivered => exact ⟨rfl, rfl, nofun⟩
  | frozen => exact ⟨generated, rfl, fun _ _ => rfl⟩
  | configured isOpen => simp [generated] at isOpen
  | unsupported isOpen => simp [generated] at isOpen
  | changed => exact ⟨generated, rfl, nofun⟩
  | found => exact ⟨generated, rfl, nofun⟩

theorem series_frozen (generated : response.headerGenerated = true) (actions : List Action) :
    (series Action.perform actions response).2.headerGenerated = true ∧
      (series Action.perform actions response).2.configuration = response.configuration ∧
      List.Forall₂
        (fun action answer =>
          ∀ setter, action = .configure setter → answer = .error .headerAlreadyGenerated)
        actions (series Action.perform actions response).1 := by
  induction actions generalizing response with
  | nil => exact ⟨generated, rfl, .nil⟩
  | cons first rest ih =>
    obtain ⟨out, configuration, refused⟩ := first.perform_frozen generated
    obtain ⟨outAfter, configurationAfter, refusedAfter⟩ := ih out
    rw [series_cons]
    exact ⟨outAfter, configurationAfter.trans configuration, .cons refused refusedAfter⟩

theorem Content.write_of_headerRefused (content : Content)
    (isOpen : response.headerGenerated = false) (emits : response.emitsHeader = true)
    (refuses : response.sink.refuses response.sink.attempts = true) :
    content.write response = (.error .sinkUnavailable,
      { response with sink := { response.sink with attempts := response.sink.attempts + 1 } }) := by
  have written := content.written response
  generalize content.write response = ran at written
  cases written with
  | headerRefused => rfl
  | refused header => simp [header isOpen emits] at refuses
  | delivered header => simp [header isOpen emits] at refuses

theorem Content.write_of_headerAccepted (content : Content) (holds : Holds sent response)
    (isOpen : response.headerGenerated = false) (emits : response.emitsHeader = true)
    (accepts : response.sink.refuses response.sink.attempts = false) :
    (content.write response).2.headerGenerated = true ∧
      (content.write response).2.configuration = response.configuration ∧
      response.configuration.headerBytes <+: (content.write response).2.sink.bytes := by
  have begins : response.sink.bytes ++ response.pending = response.configuration.headerBytes := by
    simp only [(holds.unwritten isOpen).1, pending, isOpen, preamble, emits, List.nil_append,
      Bool.false_eq_true, if_false, if_true]
  have written := content.written response
  generalize content.write response = ran at written
  cases written with
  | headerRefused _ _ refused => simp [refused] at accepts
  | refused header refused refuses bytes =>
    exact ⟨rfl, rfl, [], by rw [bytes, begins, List.append_nil]⟩
  | delivered header refuses bytes =>
    exact ⟨rfl, rfl, content.encode response.configuration.charset, by rw [bytes, begins]⟩

/-- Until a header is generated, a response has sent nothing and can be configured, but for unknown
charsets. Once it is, the configuration stays as it is, and what was sent is the header made from it
and the writes answered ok. A header that is refused changes nothing, so the next one is made anew. -/
theorem header_freezes_configuration (emitsHeader : Bool) (refuses : Nat → Bool)
    (parameters persistent : Scope) (cookies : List Cookie) (actions : List Action) :
    let start := fresh emitsHeader refuses parameters persistent cookies
    let answers := (series Action.perform actions start).1
    let response := (series Action.perform actions start).2
    (response.headerGenerated = false →
      response.sink.bytes = [] ∧
      ∀ setter : Setter, setter.apply response =
        match setter.refusal? with
        | none =>
          (.ok (), { response with configuration := setter.configured response.configuration })
        | some fault => (.error fault, response)) ∧
    (response.headerGenerated = true → ∀ later : List Action,
      (series Action.perform later response).2.headerGenerated = true ∧
      (series Action.perform later response).2.configuration = response.configuration ∧
      List.Forall₂
        (fun action answer =>
          ∀ setter, action = .configure setter → answer = .error .headerAlreadyGenerated)
        later (series Action.perform later response).1) ∧
    (response.headerGenerated = true →
      response.sink.bytes = (if emitsHeader then response.configuration.headerBytes else []) ++
        delivered response.configuration.charset actions answers) ∧
    (response.headerGenerated = false → emitsHeader = true → ∀ content : Content,
      (refuses response.sink.attempts = true →
        content.write response = (.error .sinkUnavailable, { response with
          sink := { response.sink with attempts := response.sink.attempts + 1 } })) ∧
      (refuses response.sink.attempts = false →
        (content.write response).2.headerGenerated = true ∧
        (content.write response).2.configuration = response.configuration ∧
        response.configuration.headerBytes <+: (content.write response).2.sink.bytes)) := by
  intro start answers response
  have holds : Holds (fun charset => [] ++ delivered charset actions answers) response :=
    (holds_fresh emitsHeader refuses parameters persistent cookies).series actions
  obtain ⟨emits, schedule⟩ : response.emitsHeader = emitsHeader ∧ response.sink.refuses = refuses :=
    series_fixed actions start
  refine ⟨fun isOpen => ⟨(holds.unwritten isOpen).1, fun setter => ?_⟩,
    fun generated later => series_frozen generated later, fun generated => ?_,
    fun isOpen headed content => ⟨fun refused => ?_, fun accepted => ?_⟩⟩
  next =>
    rw [setter.apply_eq, if_neg (by simp [isOpen])]
    cases setter.refusal? <;> rfl
  next =>
    rw [holds.written generated, preamble, emits, List.nil_append]
  next => exact content.write_of_headerRefused isOpen (emits.trans headed) (schedule ▸ refused)
  next =>
    exact content.write_of_headerAccepted holds isOpen (emits.trans headed) (schedule ▸ accepted)

theorem header_freezes_configuration_after_refusal :
    let actions : List Action :=
      [.write (.text "x"), .configure (.statusCode 503), .write (.text "x")]
    let response := (series Action.perform actions (fresh true (· == 0) {} {} [])).2
    response.headerGenerated = true ∧ response.configuration.statusCode = 503 ∧
      response.sink.bytes = response.configuration.headerBytes ++ ['x'.toUInt8] := by
  intro actions response
  have generated : response.headerGenerated = true := by decide +kernel
  have sent := (header_freezes_configuration true (· == 0) {} {} [] actions).2.2.1 generated
  exact ⟨generated, by decide +kernel, sent.trans (by decide +kernel)⟩

end Stencil.Response
