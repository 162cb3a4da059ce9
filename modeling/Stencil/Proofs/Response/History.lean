import Stencil.Proofs.Execution.Arguments
import Stencil.Proofs.Response.Step

set_option autoImplicit false

namespace Stencil

open Stateful

namespace Response

inductive Ledger
  | persistent
  | temporary
  deriving DecidableEq

namespace Ledger

def scope : Ledger → Response → Scope
  | persistent => Response.persistent
  | temporary => Response.temporary

def getter : Ledger → Builtin
  | persistent => .pparamGet
  | temporary => .tparamGet

def setter : Ledger → Builtin
  | persistent => .pparamSet
  | temporary => .tparamSet

def deleter : Ledger → Builtin
  | persistent => .pparamDel
  | temporary => .tparamDel

end Ledger

structure Entry where
  ledger : Ledger
  name : String
  content : Option String

def Entry.isAbout (entry : Entry) (ledger : Ledger) (name : String) : Bool :=
  entry.ledger = ledger ∧ entry.name = name

def Entry.apply (entry : Entry) (response : Response) : Response :=
  match entry with
  | ⟨.persistent, name, some content⟩ => response.setPersistent name content
  | ⟨.persistent, name, none⟩ => response.removePersistent name
  | ⟨.temporary, name, some content⟩ => response.setTemporary name content
  | ⟨.temporary, name, none⟩ => response.removeTemporary name

def Change.entry : Change → Entry
  | .setPersistent name value => ⟨.persistent, name, some value⟩
  | .removePersistent name => ⟨.persistent, name, none⟩
  | .setTemporary name value => ⟨.temporary, name, some value⟩
  | .removeTemporary name => ⟨.temporary, name, none⟩

inductive Deed
  | call (builtin : Builtin) (stack : List Value)
  | act (action : Action)

namespace Deed

def perform (deed : Deed) (response : Response) : Except RuntimeError Unit × Response :=
  match deed with
  | call builtin stack =>
    let (result, frame) := builtin.call ⟨stack, response⟩
    (result, frame.response)
  | act action =>
    let (answer, after) := action.perform response
    ((answer.map fun _ => ()).mapError .response, after)

-- What a deed puts into a scope. A function that finds no name on top of its stack, or no value
-- below that, puts nothing anywhere.
def noted? : Deed → Option Entry
  | call .pparamSet (.text name :: value :: _) => some ⟨.persistent, name, some value.display⟩
  | call .pparamDel (.text name :: _) => some ⟨.persistent, name, none⟩
  | call .tparamSet (.text name :: value :: _) => some ⟨.temporary, name, some value.display⟩
  | call .tparamDel (.text name :: _) => some ⟨.temporary, name, none⟩
  | act (.change made) => some made.entry
  | _ => none

end Deed

def latest? (ledger : Ledger) (name : String) (history : List Deed) : Option Entry :=
  ((history.filterMap Deed.noted?).filter fun entry => entry.isAbout ledger name).getLast?

/-- What a name stands for behind a history that began with something under that name. -/
def remembered (initial : Option String) (ledger : Ledger) (name : String) (history : List Deed) :
    Option String :=
  ((latest? ledger name history).map Entry.content).getD initial

theorem Entry.get?_apply (entry : Entry) (response : Response) (ledger : Ledger) (name : String) :
    (ledger.scope (entry.apply response)).get? name =
      if entry.isAbout ledger name then entry.content else (ledger.scope response).get? name := by
  obtain ⟨_ | _, key, _ | content⟩ := entry <;> cases ledger <;>
    simp [apply, isAbout, Ledger.scope, setPersistent, removePersistent, setTemporary,
      removeTemporary, eq_comm]

theorem Entry.parameters_apply (entry : Entry) (response : Response) :
    (entry.apply response).parameters = response.parameters := by
  obtain ⟨_ | _, key, _ | content⟩ := entry <;> rfl

theorem Change.apply_entry (made : Change) (response : Response) :
    made.entry.apply response = made.apply response := by
  cases made <;> rfl

structure SameScopes (a b : Response) : Prop where
  parameters : a.parameters = b.parameters
  persistent : a.persistent = b.persistent
  temporary : a.temporary = b.temporary

theorem SameScopes.refl (response : Response) : SameScopes response response :=
  ⟨rfl, rfl, rfl⟩

theorem SameScopes.scope {a b : Response} (same : SameScopes a b) (ledger : Ledger) :
    ledger.scope a = ledger.scope b := by
  cases ledger
  next => exact same.persistent
  next => exact same.temporary

theorem keeps_setMimeType_sameScopes (origin : Response) (mimeType : String) :
    Keeps (Invariant (SameScopes origin)) (setMimeType mimeType) := by
  refine keeps_invariant fun response known => ?_
  rcases setMimeType_cases mimeType response with ⟨-, ran⟩ | ⟨-, ran⟩
  next => rwa [ran]
  next =>
    rw [ran]
    exact ⟨known.parameters, known.persistent, known.temporary⟩

theorem sameScopes_of_keeps {step : Evaluation Unit} {stack : List Value} {response : Response}
    (kept : Keeps (Frame.Alike (Invariant (SameScopes response))) step) :
    SameScopes response (step ⟨stack, response⟩).2.response :=
  (kept ⟨stack, response⟩ ⟨stack, response⟩ ⟨rfl, .refl (.refl response)⟩).2.response.2

namespace Deed

variable {deed : Deed} {entry : Entry}

theorem perform_of_entry (puts : deed.noted? = some entry) (response : Response) :
    deed.perform response = (.ok (), entry.apply response) := by
  unfold noted? at puts
  split at puts <;> cases puts
  case h_5 made =>
    rw [made.apply_entry]
    rfl
  all_goals rfl

theorem sameScopes_act (action : Action) (puts : (act action).noted? = none)
    (response : Response) : SameScopes response ((act action).perform response).2 := by
  have performed := action.performed response
  change SameScopes response (action.perform response).2
  generalize action.perform response = ran at performed
  cases performed with
  | wrote written => cases written <;> exact ⟨rfl, rfl, rfl⟩
  | changed => cases puts
  | _ => exact ⟨rfl, rfl, rfl⟩

open Builtin in
theorem sameScopes_call (builtin : Builtin) (stack : List Value)
    (puts : (call builtin stack).noted? = none) (response : Response) :
    SameScopes response ((call builtin stack).perform response).2 := by
  have reading {a b : Response} (alike : Invariant (SameScopes response) a b) : a = b := alike.1
  cases builtin with
  | sin => exact sameScopes_of_keeps keeps_callSin
  | decfmt => exact sameScopes_of_keeps keeps_callDecfmt
  | dup =>
    change SameScopes response (callDup ⟨stack, response⟩).2.response
    exact sameScopes_of_keeps keeps_callDup
  | swap => exact sameScopes_of_keeps keeps_callSwap
  | setMimeType =>
    exact sameScopes_of_keeps ((keeps_popText _).bind fun mimeType =>
      Evaluation.keeps_respond (keeps_setMimeType_sameScopes response mimeType))
  | paramGet => exact sameScopes_of_keeps (keeps_callGet _ fun _ _ alike => by rw [reading alike])
  | pparamGet => exact sameScopes_of_keeps (keeps_callGet _ fun _ _ alike => by rw [reading alike])
  | tparamGet => exact sameScopes_of_keeps (keeps_callGet _ fun _ _ alike => by rw [reading alike])
  | pparamSet | tparamSet =>
    change SameScopes response (callSet _ _ ⟨stack, response⟩).2.response
    rw [callSet_apply]
    split
    next => exact .refl response
    next => exact .refl response
    next => cases puts
    next => exact .refl response
  | pparamDel | tparamDel =>
    change SameScopes response (callDelete _ _ ⟨stack, response⟩).2.response
    rw [callDelete_apply]
    split
    next => exact .refl response
    next => cases puts
    next => exact .refl response

theorem sameScopes_of_noEntry (puts : deed.noted? = none) (response : Response) :
    SameScopes response (deed.perform response).2 := by
  cases deed with
  | call builtin stack => exact sameScopes_call builtin stack puts response
  | act action => exact sameScopes_act action puts response

theorem noted?_of_failed {response : Response} {fault : RuntimeError}
    (failed : (deed.perform response).1 = .error fault) : deed.noted? = none := by
  cases puts : deed.noted? with
  | none => rfl
  | some entry =>
    rw [perform_of_entry puts] at failed
    cases failed

theorem get?_perform (deed : Deed) (response : Response) (ledger : Ledger) (name : String) :
    (ledger.scope (deed.perform response).2).get? name =
      remembered ((ledger.scope response).get? name) ledger name [deed] := by
  rw [remembered, latest?]
  cases puts : deed.noted? with
  | none => simp [puts, ((sameScopes_of_noEntry puts response).scope ledger)]
  | some entry =>
    rw [perform_of_entry puts, entry.get?_apply]
    by_cases about : entry.isAbout ledger name = true <;> simp [puts, about]

theorem call_eq_ok_iff (ledger : Ledger) {builtin : Builtin}
    (writes : builtin = ledger.setter ∨ builtin = ledger.deleter) (stack : List Value)
    (response : Response) :
    (builtin.call ⟨stack, response⟩).1 = .ok () ↔ (call builtin stack).noted?.isSome := by
  constructor
  next =>
    intro ran
    rcases writes with rfl | rfl <;> cases ledger
    case inl.persistent | inl.temporary =>
      change (Builtin.callSet _ _ ⟨stack, response⟩).1 = .ok () at ran
      rw [Builtin.callSet_apply] at ran
      split at ran <;> first | rfl | cases ran
    case inr.persistent | inr.temporary =>
      change (Builtin.callDelete _ _ ⟨stack, response⟩).1 = .ok () at ran
      rw [Builtin.callDelete_apply] at ran
      split at ran <;> first | rfl | cases ran
  next =>
    intro puts
    obtain ⟨entry, found⟩ := Option.isSome_iff_exists.1 puts
    exact congrArg Prod.fst (perform_of_entry found response)

theorem parameters_perform (deed : Deed) (response : Response) :
    (deed.perform response).2.parameters = response.parameters := by
  cases puts : deed.noted? with
  | none => exact (sameScopes_of_noEntry puts response).parameters.symm
  | some entry => rw [perform_of_entry puts, entry.parameters_apply]

end Deed

theorem latest?_append (ledger : Ledger) (name : String) (before after : List Deed) :
    latest? ledger name (before ++ after) =
      (latest? ledger name after).or (latest? ledger name before) := by
  rw [latest?, List.filterMap_append, List.filter_append, List.getLast?_append]
  rfl

theorem remembered_cons (initial : Option String) (ledger : Ledger) (name : String) (deed : Deed)
    (later : List Deed) :
    remembered initial ledger name (deed :: later) =
      remembered (remembered initial ledger name [deed]) ledger name later := by
  rw [remembered, ← List.singleton_append, latest?_append]
  cases found : latest? ledger name later <;> simp [remembered, found]

theorem get?_series (history : List Deed) (response : Response) (ledger : Ledger) (name : String) :
    (ledger.scope (series Deed.perform history response).2).get? name =
      remembered ((ledger.scope response).get? name) ledger name history := by
  induction history generalizing response with
  | nil => rfl
  | cons deed later ih =>
    rw [series_cons, ih, deed.get?_perform, ← remembered_cons]

theorem parameters_series (history : List Deed) (response : Response) :
    (series Deed.perform history response).2.parameters = response.parameters := by
  induction history generalizing response with
  | nil => rfl
  | cons deed later ih => rw [series_cons, ih, deed.parameters_perform]

/-- Behind any history a function that looks a name up in one of the two scopes finds the text last
set there, and its default if the name was last removed or never known. Only calls that find what
they need set or remove anything, no failing deed does, and the scope of the request stays as it
was. -/
theorem call_getter_series (response : Response) (history : List Deed) :
    let after := (series Deed.perform history response).2
    (∀ (ledger : Ledger) name default rest,
      ledger.getter.call ⟨default :: .text name :: rest, after⟩ =
      (.ok (), ⟨(match latest? ledger name history with
        | some ⟨_, _, some content⟩ => .text content
        | some ⟨_, _, none⟩ => default
        | none => ((ledger.scope response).get? name).elim default .text) :: rest, after⟩)) ∧
      (∀ name default rest, Builtin.paramGet.call ⟨default :: .text name :: rest, after⟩ =
        (.ok (), ⟨(response.parameters.get? name).elim default .text :: rest, after⟩)) ∧
      (∀ deed before fault, (Deed.perform deed before).1 = .error fault →
        deed.noted? = none ∧ SameScopes before (deed.perform before).2) ∧
      (∀ (ledger : Ledger) stack before,
        ((ledger.setter.call ⟨stack, before⟩).1 = .ok () ↔
          (Deed.call ledger.setter stack).noted?.isSome) ∧
        ((ledger.deleter.call ⟨stack, before⟩).1 = .ok () ↔
          (Deed.call ledger.deleter stack).noted?.isSome)) ∧
      ∀ emitsHeader refuses parameters persistent cookies name,
        (Ledger.temporary.scope
          (fresh emitsHeader refuses parameters persistent cookies)).get? name = none := by
  intro after
  refine ⟨fun ledger name default rest => ?_, fun name default rest => ?_,
    fun deed before fault failed => ?_, fun ledger stack before =>
      ⟨Deed.call_eq_ok_iff ledger (.inl rfl) stack before,
        Deed.call_eq_ok_iff ledger (.inr rfl) stack before⟩, fun _ _ _ _ _ _ => rfl⟩
  next =>
    have found : (ledger.scope after).get? name = _ := get?_series history response ledger name
    have called : ledger.getter.call ⟨default :: .text name :: rest, after⟩ =
        (.ok (), ⟨((ledger.scope after).get? name).elim default .text :: rest, after⟩) := by
      cases ledger <;> rfl
    rw [called, found, remembered]
    rcases latest? ledger name history with - | ⟨_, _, _ | content⟩ <;> rfl
  next =>
    rw [← parameters_series history response]
    exact Builtin.callGet_apply _ _ default name rest after
  next =>
    have noEntry := Deed.noted?_of_failed failed
    exact ⟨noEntry, Deed.sameScopes_of_noEntry noEntry before⟩

theorem call_getter_series_of_failure :
    let response := fresh true (fun _ => false) (.ofPairs [("k", "p")]) (.ofPairs [("k", "old")]) []
    let history : List Deed :=
      [.call .tparamSet [.text "k", .text "t"], .call .pparamSet [.text "k", .integer (-7)],
        .call .pparamSet [.text "k"], .act (.change (.removeTemporary "k"))]
    let after := (series Deed.perform history response).2
    Builtin.pparamGet.call ⟨[.absent, .text "k"], after⟩ = (.ok (), ⟨[.text "-7"], after⟩) ∧
      Builtin.tparamGet.call ⟨[.absent, .text "k"], after⟩ = (.ok (), ⟨[.absent], after⟩) ∧
      Builtin.pparamGet.call ⟨[.absent, .text "j"], after⟩ = (.ok (), ⟨[.absent], after⟩) ∧
      Builtin.paramGet.call ⟨[.absent, .text "k"], after⟩ = (.ok (), ⟨[.text "p"], after⟩) ∧
      (Deed.perform (.call .pparamSet [.text "k"]) after).1 =
        .error (.stackUnderflow (.builtin .pparamSet)) ∧
      SameScopes after (Deed.perform (.call .pparamSet [.text "k"]) after).2 := by
  intro response history after
  have failed : (Deed.perform (.call .pparamSet [.text "k"]) after).1 =
      .error (.stackUnderflow (.builtin .pparamSet)) := rfl
  have shown : (Value.integer (-7)).display = "-7" := by decide +kernel
  obtain ⟨written, read, fails, -, -⟩ := call_getter_series response history
  have kept := written .persistent "k" .absent []
  have removed := written .temporary "k" .absent []
  have unknown := written .persistent "j" .absent []
  have latest : latest? .persistent "k" history = some ⟨.persistent, "k", some "-7"⟩ := by
    rw [← shown]
    rfl
  rw [latest] at kept
  exact ⟨kept, removed, unknown, read "k" .absent [], failed, (fails _ _ _ failed).2⟩

end Response

end Stencil
