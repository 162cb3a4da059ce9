import Stencil.Proofs.Execution.Transcript
import Stencil.Session

set_option autoImplicit false

namespace Stencil

open Response (Content Holds)

namespace Execution

-- The texts that are taken when some are written one after another.
def taken : List String → Machine → List String
  | [] => fun _ => []
  | text :: rest =>
    behind (respond (Response.writeText text)) fun _ after => text :: taken rest after

end Execution

mutual

def Node.taken (limit : Nat) : Node → Machine → List String
  | .text content => Execution.taken [content]
  | .output elements =>
    Execution.behind (Execution.evaluate elements) fun values =>
      Execution.taken (values.map Value.display)
  | .loop head children =>
    Execution.loopTexts limit head (Node.executeAll limit children) (Node.takenAll limit children)

def Node.takenAll (limit : Nat) : List Node → Machine → List String
  | [] => fun _ => []
  | node :: rest => fun machine =>
    node.taken limit machine ++
      Execution.behind (node.execute limit) (fun _ => Node.takenAll limit rest) machine

end

def Document.taken (limit : Nat) (document : Document) (machine : Machine) : List String :=
  Node.takenAll limit document.children machine ++
    Execution.behind (Node.executeAll limit document.children)
      (fun _ => Execution.behind (Execution.respond (Response.writeBytes ['\n'.toUInt8]))
        fun _ _ => ["\n"]) machine

namespace Execution

theorem tells_taken_write (content : Content) {text : String}
    (same : ∀ charset, content.encode charset = charset.encode text.toList) :
    Tells Holds (behind (respond content.write) fun _ _ => [text]) (respond content.write) := by
  intro machine sent holds
  have after := holds.perform (.write content)
  rw [behind, respond_apply]
  rw [Response.Action.perform] at after
  rcases ran : content.write machine.response with ⟨fault | done, response⟩ <;> rw [ran] at after
  next =>
    simp only [Except.mapError, List.flatMap_nil, Text.Charset.encode_nil]
    exact after
  next =>
    simp only [Except.mapError, List.flatMap_singleton, ← same]
    exact after

theorem taken_cons (text : String) (rest : List String) (machine : Machine) :
    taken (text :: rest) machine =
      behind (respond (Response.writeText text)) (fun _ _ => [text]) machine ++
        behind (respond (Response.writeText text)) (fun _ => taken rest) machine := by
  rw [taken, behind, behind, behind]
  rcases respond (Response.writeText text) machine with ⟨_ | _, after⟩ <;> rfl

theorem tells_taken_text (text : String) :
    Tells Holds (behind (respond (Response.writeText text)) fun _ _ => [text])
      (respond (Response.writeText text)) :=
  tells_taken_write (.text text) fun _ => rfl

theorem tells_taken_values (values : List Value) :
    Tells Holds (taken (values.map Value.display)) (writeValues values) := by
  induction values with
  | nil => exact tells_of_keeps fun _ => Stateful.keeps_pure ()
  | cons value rest ih =>
    -- The rest is behind the first write, and so it is only written if that is taken.
    rw [List.map_cons, funext (taken_cons value.display _)]
    exact (tells_taken_text value.display).bind fun _ => ih

end Execution

theorem Node.tells_taken (limit : Nat) (nodes : List Node) :
    Execution.Tells Holds (takenAll limit nodes) (executeAll limit nodes) := by
  induction nodes using siblings_induction with
  | nil => exact Execution.tells_of_keeps fun _ => Stateful.keeps_pure ()
  | text content rest ih =>
    rw [takenAll, executeAll]
    exact (Execution.tells_taken_text content).bind fun _ => ih
  | output elements rest ih =>
    rw [takenAll, executeAll]
    exact (Execution.tells_output Response.silentBisimulation_holds Execution.tells_taken_values
      elements).bind fun _ => ih
  | loop head children rest inside later =>
    rw [takenAll, executeAll]
    exact (Execution.tells_loop inside limit head).bind fun _ => later

theorem Document.tells_taken (limit : Nat) (document : Document) :
    Execution.Tells Holds (document.taken limit) (document.executeWithin limit) :=
  (Node.tells_taken limit document.children).bind fun _ =>
    Execution.tells_taken_write (.bytes ['\n'.toUInt8]) fun charset =>
      (Text.Charset.encode_newline charset).symm

namespace Session

open Response (series)

-- What a step puts into the sink behind the header, in a charset.
def Step.delivery (charset : Text.Charset) (step : Step) (response : Response) : List UInt8 :=
  match step with
  | act action => action.delivery charset (action.perform response).1
  | execute document =>
    charset.encode ((document.taken roundLimit { response }).flatMap String.toList)

def body (charset : Text.Charset) : List Step → Response → List UInt8
  | [], _ => []
  | step :: rest, response =>
    step.delivery charset response ++ body charset rest (step.perform response).2

variable {response : Response} {sent : Text.Charset → List UInt8}

theorem Step.holds_perform (holds : Holds sent response) (step : Step) :
    Holds (fun charset => sent charset ++ step.delivery charset response)
      (step.perform response).2 := by
  cases step with
  | act action => exact holds.perform action
  | execute document => exact document.tells_taken roundLimit { response } sent holds

theorem holds_series (holds : Holds sent response) (steps : List Step) :
    Holds (fun charset => sent charset ++ body charset steps response)
      (series Step.perform steps response).2 := by
  induction steps generalizing response sent with
  | nil =>
    simp only [body, List.append_nil]
    exact holds
  | cons first rest ih =>
    have after := ih (first.holds_perform holds)
    simp only [List.append_assoc] at after
    exact after

end Session

end Stencil
