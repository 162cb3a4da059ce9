import Stencil.Proofs.Execution.Bisimulation
import Stencil.Proofs.Response.Step

set_option autoImplicit false

namespace Stencil

open Stateful

namespace Sink

def refusing (refuses : Nat → Bool) (sink : Sink) : Sink :=
  { sink with refuses }

def refused (refuses : Nat → Bool) (sink : Sink) : Sink :=
  { sink with refuses, attempts := sink.attempts + 1 }

def taking (data : List UInt8) (sink : Sink) : Sink :=
  { sink with accepted := data :: sink.accepted, attempts := sink.attempts + 1 }

def Takes (refuses : Nat → Bool) (sink : Sink) (count : Nat) : Prop :=
  ∀ j < count, refuses (sink.attempts + j) = false

theorem Takes.add {refuses : Nat → Bool} {sink after : Sink} {count more : Nat}
    (first : sink.Takes refuses count) (attempts : after.attempts = sink.attempts + count)
    (second : after.Takes refuses more) : sink.Takes refuses (count + more) := by
  intro j within
  by_cases early : j < count
  next => exact first j early
  next =>
    have late := second (j - count) (by omega)
    rwa [attempts, Nat.add_assoc, Nat.add_sub_cancel' (Nat.not_lt.1 early)] at late

variable {sink : Sink} {data : List UInt8}

theorem write_of_accepts (accepts : sink.refuses = fun _ => false) (some : data ≠ []) :
    sink.write data = (.ok (), sink.taking data) := by
  have notEmpty : ¬ data.isEmpty = true := by simpa using some
  rw [write, if_neg notEmpty, if_neg (by simp [accepts])]
  rfl

theorem write_refusing (refuses : Nat → Bool) (some : data ≠ []) :
    (sink.refusing refuses).write data =
      if refuses sink.attempts then (.error .sinkUnavailable, sink.refused refuses)
      else (.ok (), (sink.taking data).refusing refuses) := by
  have notEmpty : ¬ data.isEmpty = true := by simpa using some
  rw [write, if_neg notEmpty]
  rfl

end Sink

namespace Response

def refusing (refuses : Nat → Bool) (response : Response) : Response :=
  { response with sink := response.sink.refusing refuses }

def refused (refuses : Nat → Bool) (response : Response) : Response :=
  { response with sink := response.sink.refused refuses }

-- A response on a sink that refuses nothing, and the same one on a sink that refuses writes.
structure Refusing (refuses : Nat → Bool) (sink : Sink) (clean faulty : Response) : Prop where
  sink : clean.sink = sink
  response : faulty = clean.refusing refuses

theorem silentBisimulation_refusing (refuses : Nat → Bool) (sink : Sink) :
    SilentBisimulation (Refusing refuses sink) where
  parameters same := same.response ▸ rfl
  persistent same := same.response ▸ rfl
  temporary same := same.response ▸ rfl
  setPersistent _ _ same := ⟨same.sink, same.response ▸ rfl⟩
  removePersistent _ same := ⟨same.sink, same.response ▸ rfl⟩
  setTemporary _ _ same := ⟨same.sink, same.response ▸ rfl⟩
  removeTemporary _ same := ⟨same.sink, same.response ▸ rfl⟩
  setMimeType mimeType := by
    rintro clean _ ⟨same, rfl⟩
    rcases setMimeType_cases mimeType clean with ⟨generated, ran⟩ | ⟨isOpen, ran⟩
    next =>
      have ranFaulty := (setMimeType_cases mimeType (clean.refusing refuses)).resolve_right
        fun other => by simp [refusing, generated] at other
      rw [ran, ranFaulty.2]
      exact ⟨rfl, same, rfl⟩
    next =>
      have ranFaulty := (setMimeType_cases mimeType (clean.refusing refuses)).resolve_left
        fun other => by simp [refusing, isOpen] at other
      rw [ran, ranFaulty.2]
      exact ⟨rfl, same, rfl⟩

/-- Writes that a sink took one after the other to become another one, each with the response that
stood on the sink when it was issued. -/
inductive Journal : Sink → List (List UInt8 × Response) → Sink → Prop
  | nil (sink : Sink) : Journal sink [] sink
  | cons {sink last : Sink} {data : List UInt8} {moment : Response}
      {rest : List (List UInt8 × Response)} (stands : moment.sink = sink) (some : data ≠ [])
      (later : Journal (sink.taking data) rest last) : Journal sink ((data, moment) :: rest) last

namespace Journal

variable {sink middle last : Sink} {entries more : List (List UInt8 × Response)}
  {entry : List UInt8 × Response}

theorem append (first : Journal sink entries middle) (second : Journal middle more last) :
    Journal sink (entries ++ more) last := by
  induction first with
  | nil => exact second
  | cons stands some _ ih => exact .cons stands some (ih second)

theorem accepted (journal : Journal sink entries last) :
    last.accepted = (entries.map Prod.fst).reverse ++ sink.accepted := by
  induction journal with
  | nil => rfl
  | cons stands some later ih => simp [ih, Sink.taking]

theorem attempts (journal : Journal sink entries last) :
    last.attempts = sink.attempts + entries.length := by
  induction journal with
  | nil => rfl
  | @cons sink _ data _ rest stands some later ih =>
    have counted : (sink.taking data).attempts = sink.attempts + 1 := rfl
    rw [ih, List.length_cons]
    omega

theorem refuses (journal : Journal sink entries last) : last.refuses = sink.refuses := by
  induction journal with
  | nil => rfl
  | cons stands some later ih => exact ih

theorem upTo (journal : Journal sink (entries ++ entry :: more) last) :
    Journal sink entries entry.2.sink := by
  induction entries generalizing sink with
  | nil =>
    cases journal with
    | cons stands some later =>
      subst stands
      exact .nil _
  | cons first rest ih =>
    cases journal with
    | cons stands some later => exact .cons stands some (ih later)

end Journal

-- Writes a piece that depends on the response. It may be the one that freezes the configuration.
def sendPiece (piece : Response → List UInt8) (freezes : Bool) : Operation Unit := fun response =>
  match response.sink.write (piece response) with
  | (.ok _, sink) =>
    (.ok (), { response with sink, headerGenerated := response.headerGenerated || freezes })
  | (.error fault, sink) => (.error fault, { response with sink })

section

variable {piece : Response → List UInt8} {response : Response} {freezes : Bool}

theorem sendPiece_of_nil (none : piece response = []) :
    sendPiece piece freezes response =
      (.ok (), { response with headerGenerated := response.headerGenerated || freezes }) := by
  rw [sendPiece, none]
  rfl

theorem sendPiece_of_accepts (accepts : response.sink.refuses = fun _ => false)
    (some : piece response ≠ []) :
    sendPiece piece freezes response =
      (.ok (), { response with
        sink := response.sink.taking (piece response)
        headerGenerated := response.headerGenerated || freezes }) := by
  rw [sendPiece, Sink.write_of_accepts accepts some]

theorem sendPiece_refusing (refuses : Nat → Bool) (some : piece (response.refusing refuses) ≠ []) :
    sendPiece piece freezes (response.refusing refuses) =
      if refuses response.sink.attempts then (.error .sinkUnavailable, response.refused refuses)
      else (.ok (), refusing refuses { response with
        sink := response.sink.taking (piece (response.refusing refuses))
        headerGenerated := response.headerGenerated || freezes }) := by
  have sink : (response.refusing refuses).sink = response.sink.refusing refuses := rfl
  rw [sendPiece, sink, Sink.write_refusing refuses some]
  by_cases refused : refuses response.sink.attempts = true
  next =>
    rw [if_pos refused, if_pos refused]
    rfl
  next =>
    rw [if_neg refused, if_neg refused]
    rfl

end

theorem ensureHeader_eq_sendPiece : ensureHeader = sendPiece pending true := by
  funext response
  rw [ensureHeader_apply, sendPiece, pending]
  by_cases generated : response.headerGenerated = true
  next =>
    -- There is nothing to send, and the sink is left as it is.
    have same : response = { response with headerGenerated := true } := by rw [← generated]
    rw [if_pos generated, if_pos generated, Bool.or_true]
    exact congrArg _ same
  next =>
    rw [if_neg generated, if_neg generated, Bool.or_true]
    refine (generateHeader_apply response).trans ?_
    rcases response.sink.write response.preamble with ⟨_ | _, sink⟩ <;> rfl

theorem Content.write_eq_sendPiece (content : Content) :
    content.write = sendPiece pending true >>= fun _ =>
      sendPiece (fun response => content.encode response.configuration.charset) false := by
  funext response
  rw [write_apply, bind_apply, ensureHeader_eq_sendPiece]
  rcases sendPiece pending true response with ⟨_ | _, opened⟩
  next => rfl
  next =>
    dsimp only
    rw [send_apply, sendPiece, Bool.or_false]
    rcases opened.sink.write _ with ⟨_ | _, sink⟩ <;> rfl

inductive Content.Sends (content : Content) (response : Response) :
    List UInt8 → Response → Prop
  | header (some : response.pending ≠ []) : Sends content response response.pending response
  | content {opened : Response} (ran : ensureHeader response = (.ok (), opened))
      (some : content.encode opened.configuration.charset ≠ []) :
      Sends content response (content.encode opened.configuration.charset) opened

end Response

end Stencil
