import Stencil.Proofs.Execution.Footprint
import Stencil.Proofs.Response.Header
import Stencil.Proofs.Text.Charset

set_option autoImplicit false

namespace Stencil

open Stateful

namespace Execution

variable {α β : Type}

def behind (step : Execution α) (later : α → Machine → List String) (machine : Machine) :
    List String :=
  match step machine with
  | (.ok value, after) => later value after
  | (.error _, _) => []

def roundsTexts (name : String) (stop step : Value) (body : Execution Unit)
    (visit : Machine → List String) : Nat → Machine → List String
  | 0, _ => []
  | limit + 1, machine =>
    behind (test name stop) (fun goesOn begun =>
      if goesOn then
        visit begun ++ behind body (fun _ => behind (advance name stop step) fun again moved =>
          if again then roundsTexts name stop step body visit limit moved else []) begun
      else []) machine

def loopTexts (limit : Nat) (head : LoopHead) (body : Execution Unit)
    (visit : Machine → List String) : Machine → List String :=
  behind (ofResult (loopOperand head.start)) fun start =>
    behind (ofResult (loopOperand head.stop)) fun stop =>
      behind (ofResult (head.step.elim (.ok (.integer 1)) loopOperand)) fun step =>
        behind (pushVariable head.variableName start) fun _ =>
          roundsTexts head.variableName stop step body visit limit

end Execution

mutual

-- The texts that a visit of a node gives to be written.
def Node.texts (limit : Nat) : Node → Machine → List String
  | .text content => fun _ => [content]
  | .output elements =>
    Execution.behind (Execution.evaluate elements) fun values _ => values.map Value.display
  | .loop head children =>
    Execution.loopTexts limit head (Node.executeAll limit children) (Node.textsAll limit children)

def Node.textsAll (limit : Nat) : List Node → Machine → List String
  | [] => fun _ => []
  | node :: rest => fun machine =>
    node.texts limit machine ++
      Execution.behind (node.execute limit) (fun _ => Node.textsAll limit rest) machine

end

def Document.characters (limit : Nat) (document : Document) (machine : Machine) : List Char :=
  (Node.textsAll limit document.children machine).flatMap String.toList

namespace Response

variable {response : Response} {sent : Text.Charset → List UInt8}

theorem Holds.set (holds : Holds sent response) (persistent temporary : Scope) :
    Holds sent { response with persistent, temporary } :=
  ⟨holds.unwritten, holds.written⟩

theorem Holds.setMimeType (holds : Holds sent response) (isOpen : response.headerGenerated = false)
    (mimeType : String) :
    Holds sent
      { response with configuration := { response.configuration with mimeType } } where
  unwritten := holds.unwritten
  written generated := absurd (isOpen.symm.trans generated) Bool.false_ne_true

theorem silentBisimulation_holds (sent : Text.Charset → List UInt8) :
    SilentBisimulation (Invariant (Holds sent)) :=
  silentBisimulation_invariant (fun _ persistent temporary holds => holds.set persistent temporary)
    fun _ mimeType isOpen holds => holds.setMimeType isOpen mimeType

structure Delivers (sent : Text.Charset → List UInt8) (response : Response) : Prop
    extends Holds sent response where
  accepts : response.sink.refuses = fun _ => false

theorem Delivers.write (delivers : Delivers sent response) (content : Content) :
    Delivers (fun charset => sent charset ++ content.encode charset) (content.write response).2 := by
  obtain ⟨sink, wrote, accepts, bytes⟩ := content.write_of_accepts delivers.accepts
  rw [wrote]
  refine { unwritten := nofun, written := fun _ => ?_, accepts }
  change sink.bytes = response.preamble ++
    (sent response.configuration.charset ++ content.encode response.configuration.charset)
  rw [bytes, delivers.bytes_append_pending, List.append_assoc]

theorem silentBisimulation_delivers (sent : Text.Charset → List UInt8) :
    SilentBisimulation (Invariant (Delivers sent)) :=
  silentBisimulation_invariant
    (fun _ persistent temporary delivers => ⟨delivers.set persistent temporary, delivers.accepts⟩)
    fun _ mimeType isOpen delivers => ⟨delivers.setMimeType isOpen mimeType, delivers.accepts⟩

end Response

namespace Execution

open Response (Delivers)

variable {α β : Type} {holds : (Text.Charset → List UInt8) → Response → Prop}
  {texts visit : Machine → List String}

-- Whether an action adds texts, in the charset of the response, to what that holds.
def Tells (holds : (Text.Charset → List UInt8) → Response → Prop) (texts : Machine → List String)
    (action : Execution α) : Prop :=
  ∀ machine sent, holds sent machine.response →
    holds (fun charset => sent charset ++ charset.encode ((texts machine).flatMap String.toList))
      (action machine).2.response

theorem tells_of_keeps {action : Execution α}
    (silent : ∀ sent, Keeps (Machine.Alike (Invariant (holds sent))) action) :
    Tells holds (fun _ => []) action := by
  intro machine sent held
  simp only [List.flatMap_nil, Text.Charset.encode_nil, List.append_nil]
  exact (silent sent machine machine ⟨Store.Same.refl _, .refl held⟩).2.response.2

theorem Tells.bind {step : Execution α} {next : α → Execution β}
    {later : α → Machine → List String} (first : Tells holds texts step)
    (second : ∀ value, Tells holds (later value) (next value)) :
    Tells holds (fun machine => texts machine ++ behind step later machine) (step >>= next) := by
  intro machine sent held
  have before := first machine sent held
  rw [bind_apply]
  rcases ran : step machine with ⟨halt | value, after⟩ <;> rw [ran] at before
  next => simpa [behind, ran] using before
  next => simpa [behind, ran, Text.Charset.encode_append] using second value after _ before

theorem tells_write (content : Response.Content) (written : List String)
    (same : ∀ charset, content.encode charset = charset.encode (written.flatMap String.toList)) :
    Tells Delivers (fun _ => written) (respond content.write) := by
  intro machine sent delivers
  simp only [← same]
  exact delivers.write content

theorem tells_writeText (content : String) :
    Tells Delivers (fun _ => [content]) (respond (Response.writeText content)) :=
  tells_write (.text content) [content] fun charset => by
    rw [List.flatMap_singleton, Response.Content.encode]

theorem Tells.congr {action : Execution α} {others : Machine → List String}
    (tells : Tells Delivers texts action)
    (same : ∀ machine : Machine, (machine.response.sink.refuses = fun _ => false) →
      others machine = texts machine) : Tells Delivers others action := by
  intro machine sent delivers
  rw [same machine delivers.accepts]
  exact tells machine sent delivers

theorem tells_writeValues (values : List Value) :
    Tells Delivers (fun _ => values.map Value.display) (writeValues values) := by
  induction values with
  | nil => exact tells_of_keeps fun _ => keeps_pure ()
  | cons value rest ih =>
    refine ((tells_writeText value.display).bind fun _ => ih).congr fun machine accepts => ?_
    -- No write fails on such a sink.
    obtain ⟨sink, wrote, -⟩ := (Response.Content.text value.display).write_of_accepts accepts
    have wrote : Response.writeText value.display machine.response = _ := wrote
    rw [behind, respond_apply, wrote]
    rfl

theorem tells_output {later : List Value → Machine → List String}
    (silent : ∀ sent, Response.SilentBisimulation (Invariant (holds sent)))
    (wrote : ∀ values, Tells holds (later values) (writeValues values)) (elements : List Element) :
    Tells holds (behind (evaluate elements) later) (evaluate elements >>= writeValues) :=
  (tells_of_keeps fun sent => keeps_evaluate (silent sent) elements).bind wrote

section

variable {name : String} {stop step : Value} {body : Execution Unit}

theorem tells_rounds (visits : Tells holds visit body) (limit : Nat) :
    Tells holds (roundsTexts name stop step body visit limit) (rounds name stop step body limit) := by
  have quiet : Tells holds (fun _ => []) (pure () : Execution Unit) :=
    tells_of_keeps fun _ => keeps_pure ()
  induction limit with
  | zero =>
    rw [rounds_zero]
    refine tells_of_keeps fun sent => keeps_test.bind fun goesOn => ?_
    cases goesOn
    next => exact keeps_pure ()
    next => exact keeps_throw _
  | succ limit ih =>
    rw [rounds_succ]
    refine (tells_of_keeps fun _ => keeps_test).bind fun goesOn => ?_
    cases goesOn with
    | false => exact quiet
    | true =>
      refine visits.bind fun _ => (tells_of_keeps fun _ => keeps_advance).bind fun again => ?_
      cases again with
      | false => exact quiet
      | true => exact ih

theorem tells_loop (visits : Tells holds visit body) (limit : Nat) (head : LoopHead) :
    Tells holds (loopTexts limit head body visit) (loop limit head body) := by
  have operand (result : Except RuntimeError Value) : Tells holds (fun _ => []) (ofResult result) :=
    tells_of_keeps fun _ => keeps_ofResult result
  refine (operand _).bind fun start => (operand _).bind fun stop => (operand _).bind fun step => ?_
  exact (tells_of_keeps fun _ => keeps_pushVariable _ _).bind fun _ => tells_rounds visits limit

end

end Execution

theorem Node.tells_executeAll (limit : Nat) (nodes : List Node) :
    Execution.Tells Response.Delivers (textsAll limit nodes) (executeAll limit nodes) := by
  induction nodes using siblings_induction with
  | nil => exact Execution.tells_of_keeps fun _ => keeps_pure ()
  | text content rest ih =>
    rw [textsAll, executeAll]
    exact (Execution.tells_writeText content).bind fun _ => ih
  | output elements rest ih =>
    rw [textsAll, executeAll]
    exact (Execution.tells_output Response.silentBisimulation_delivers Execution.tells_writeValues
      elements).bind fun _ => ih
  | loop head children rest inside later =>
    rw [textsAll, executeAll]
    exact (Execution.tells_loop inside limit head).bind fun _ => later

theorem Document.delivers_executeWithin {limit : Nat} {document : Document} {machine after : Machine}
    {sent : Text.Charset → List UInt8} (delivers : Response.Delivers sent machine.response)
    (ran : document.executeWithin limit machine = (.ok (), after)) :
    after.response.headerGenerated = true ∧
      Response.Delivers
        (fun charset => sent charset ++ charset.encode (document.characters limit machine ++ ['\n']))
        after.response := by
  have told := Node.tells_executeAll limit document.children machine sent delivers
  rw [executeWithin, Execution.bind_apply] at ran
  rcases visit : Node.executeAll limit document.children machine with ⟨halt | value, middle⟩ <;>
    rw [visit] at ran told
  next => cases ran
  next =>
    have ended := told.write (.bytes ['\n'.toUInt8])
    obtain ⟨sink, wrote, -⟩ :=
      (Response.Content.bytes ['\n'.toUInt8]).write_of_accepts told.accepts
    change Execution.respond (Response.Content.bytes ['\n'.toUInt8]).write middle = _ at ran
    rw [Execution.respond_apply, wrote] at ran
    obtain ⟨-, rfl⟩ := Prod.ext_iff.1 ran
    rw [wrote] at ended
    refine ⟨rfl, ?_⟩
    simpa [Text.Charset.encode_append, Text.Charset.encode_newline, Response.Content.encode,
      Document.characters] using ended

end Stencil
