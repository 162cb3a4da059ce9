import Stencil.Proofs.Execution.Lexical
import Stencil.Proofs.Fallible
import Stencil.Proofs.Response.Refusal

set_option autoImplicit false

namespace Stencil

open Stateful

def Machine.refusing (refuses : Nat → Bool) (machine : Machine) : Machine :=
  { machine with response := machine.response.refusing refuses }

namespace Execution

variable {α β : Type} {issued : List UInt8 → Response → Prop} {refuses : Nat → Bool}
  {start middle : Sink} {journal : List (List UInt8 × Response)} {machine : Machine}

/-- How an execution on a sink that refuses writes comes out next to one on a sink that refuses none
and takes the writes of a journal: either it went on to the end, or it stopped when it issued the
first write that was refused. -/
inductive Cut (refuses : Nat → Bool) (start : Sink) (journal : List (List UInt8 × Response)) :
    Except Halt α × Machine → Except Halt α × Machine → Prop
  | whole {result : Except Halt α} {clean faulty : Machine}
      (taken : start.Takes refuses journal.length)
      (alike : clean.Alike (Response.Refusing refuses clean.response.sink) faulty) :
      Cut refuses start journal (result, clean) (result, faulty)
  | cut {kept lost : List (List UInt8 × Response)} {entry : List UInt8 × Response}
      {result : Except Halt α} {clean : Machine} {store : Store}
      (split : journal = kept ++ entry :: lost) (taken : start.Takes refuses kept.length)
      (refused : refuses (start.attempts + kept.length) = true) :
      Cut refuses start journal (result, clean)
        (.error (.failed (.response .sinkUnavailable)), ⟨store, entry.2.refused refuses⟩)

theorem Cut.after {more : List (List UInt8 × Response)} {clean faulty : Except Halt α × Machine}
    (cut : Cut refuses middle more clean faulty) (before : Response.Journal start journal middle)
    (taken : start.Takes refuses journal.length) :
    Cut refuses start (journal ++ more) clean faulty := by
  cases cut with
  | whole rest alike =>
    exact .whole (List.length_append ▸ taken.add before.attempts rest) alike
  | @cut kept lost entry _ _ _ split rest refused =>
    rw [before.attempts, Nat.add_assoc, ← List.length_append] at refused
    refine .cut (by rw [split, List.append_assoc]) ?_ refused
    exact List.length_append ▸ taken.add before.attempts rest

theorem Cut.outcome {clean faulty : Except Halt α × Machine}
    (cut : Cut refuses start journal clean faulty) :
    (start.Takes refuses journal.length →
      faulty.1 = clean.1 ∧ faulty.2.response = clean.2.response.refusing refuses) ∧
    ∀ k (within : k < journal.length), refuses (start.attempts + k) = true →
      start.Takes refuses k →
      faulty.1 = .error (.failed (.response .sinkUnavailable)) ∧
        faulty.2.response = journal[k].2.refused refuses := by
  cases cut with
  | whole taken alike =>
    refine ⟨fun _ => ⟨rfl, alike.response.response⟩, fun k within refused _ => ?_⟩
    exact absurd refused (by simp [taken k within])
  | @cut kept lost entry _ _ _ split taken refused =>
    subst split
    refine ⟨fun accepted => ?_, fun k within refusedHere first => ?_⟩
    next => exact absurd refused (by simp [accepted kept.length (by simp)])
    next =>
      have notLater : ¬ kept.length < k := fun sooner => by simp [first _ sooner] at refused
      have notSooner : ¬ k < kept.length := fun later => by simp [taken k later] at refusedHere
      obtain rfl : k = kept.length := by omega
      exact ⟨rfl, by simp⟩

def Cuts (issued : List UInt8 → Response → Prop) (action : Execution α) (machine : Machine) :
    Prop :=
  (machine.response.sink.refuses = fun _ => false) →
    ∃ journal, Response.Journal machine.response.sink journal (action machine).2.response.sink ∧
      (∀ entry ∈ journal, issued entry.1 entry.2) ∧
      ∀ refuses faulty, machine.Alike (Response.Refusing refuses machine.response.sink) faulty →
        Cut refuses machine.response.sink journal (action machine) (action faulty)

theorem Cuts.mono {more : List UInt8 → Response → Prop} {action : Execution α}
    (cuts : Cuts issued action machine)
    (weaker : ∀ data moment, issued data moment → more data moment) :
    Cuts more action machine := by
  intro accepts
  obtain ⟨journal, logged, issues, outcome⟩ := cuts accepts
  exact ⟨journal, logged, fun entry member => weaker _ _ (issues entry member), outcome⟩

theorem Cuts.bind {action : Execution α} {next : α → Execution β}
    (first : Cuts issued action machine)
    (second : ∀ value after, action machine = (.ok value, after) →
      Cuts issued (next value) after) : Cuts issued (action >>= next) machine := by
  intro accepts
  obtain ⟨journal, logged, issues, cut⟩ := first accepts
  rw [bind_apply]
  rcases ran : action machine with ⟨halt | value, after⟩ <;> rw [ran] at logged
  next =>
    refine ⟨journal, logged, issues, fun refuses faulty alike => ?_⟩
    have cut := cut refuses faulty alike
    rw [bind_apply]
    generalize action faulty = ranFaulty at cut
    rw [ran] at cut
    cases cut with
    | whole taken alike => exact .whole taken alike
    | cut split taken refused => exact .cut split taken refused
  next =>
    obtain ⟨more, loggedLater, issuesLater, cutLater⟩ :=
      second value after ran (logged.refuses.trans accepts)
    have all : ∀ entry ∈ journal ++ more, issued entry.1 entry.2 := fun entry member =>
      (List.mem_append.1 member).elim (issues entry) (issuesLater entry)
    refine ⟨journal ++ more, logged.append loggedLater, all, fun refuses faulty alike => ?_⟩
    have cut := cut refuses faulty alike
    rw [bind_apply]
    generalize action faulty = ranFaulty at cut
    rw [ran] at cut
    cases cut with
    | whole taken alike => exact (cutLater refuses _ alike).after logged taken
    | cut split taken refused =>
      -- The run on the sink that refuses nothing goes on, and what it writes then is lost as well.
      exact .cut (by rw [split, List.append_assoc]; rfl) taken refused

theorem cuts_of_keeps {action : Execution α}
    (silent : ∀ refuses,
      Keeps (Machine.Alike (Response.Refusing refuses machine.response.sink)) action) :
    Cuts issued action machine := by
  intro accepts
  have unwritten := (silent (fun _ => false) machine (machine.refusing fun _ => false)
    ⟨Store.Same.refl _, rfl, rfl⟩).2.response.sink
  refine ⟨[], by rw [unwritten]; exact .nil _, nofun, fun refuses faulty alike => ?_⟩
  obtain ⟨same, left⟩ := silent refuses machine faulty alike
  rcases ran : action machine with ⟨result, after⟩
  rcases ranFaulty : action faulty with ⟨resultFaulty, afterFaulty⟩
  rw [ran, ranFaulty] at same left
  rw [ran] at unwritten
  obtain rfl : result = resultFaulty := same
  exact .whole nofun (unwritten ▸ left)

theorem cuts_sendPiece {piece : Response → List UInt8} (freezes : Bool)
    (blind : ∀ refuses, piece (machine.response.refusing refuses) = piece machine.response)
    (issues : piece machine.response ≠ [] → issued (piece machine.response) machine.response) :
    Cuts issued (respond (Response.sendPiece piece freezes)) machine := by
  intro accepts
  by_cases some : piece machine.response = []
  next =>
    refine ⟨[], ?_, nofun, ?_⟩
    next =>
      rw [respond_apply, Response.sendPiece_of_nil some]
      exact .nil _
    next =>
      rintro refuses ⟨store, _⟩ ⟨same, -, rfl⟩
      rw [respond_apply, respond_apply, Response.sendPiece_of_nil some,
        Response.sendPiece_of_nil ((blind refuses).trans some)]
      exact .whole nofun ⟨same, rfl, rfl⟩
  next =>
    refine ⟨[(piece machine.response, machine.response)], ?_, by simpa using issues some, ?_⟩
    next =>
      rw [respond_apply, Response.sendPiece_of_accepts accepts some]
      exact .cons rfl some (.nil _)
    next =>
      rintro refuses ⟨store, _⟩ ⟨same, -, rfl⟩
      rw [respond_apply, respond_apply, Response.sendPiece_of_accepts accepts some,
        Response.sendPiece_refusing refuses (by rwa [blind]), blind]
      by_cases refused : refuses machine.response.sink.attempts = true
      next =>
        rw [if_pos refused]
        exact .cut (List.nil_append _).symm nofun refused
      next =>
        rw [if_neg refused]
        refine .whole (fun j only => ?_) ⟨same, rfl, rfl⟩
        obtain rfl : j = 0 := Nat.lt_one_iff.1 only
        simpa using refused

theorem respond_bind (first second : Response.Operation Unit) :
    respond (first >>= fun _ => second) = respond first >>= fun _ => respond second := by
  funext machine
  rw [bind_apply, respond_apply, respond_apply, Stateful.bind_apply]
  rcases first machine.response with ⟨_ | _, after⟩ <;> rfl

theorem response_of_respond {operation : Response.Operation Unit} {after : Machine}
    (ran : respond operation machine = (.ok (), after)) :
    operation machine.response = (.ok (), after.response) := by
  rw [respond_apply] at ran
  obtain ⟨result, rfl⟩ := Prod.ext_iff.1 ran
  exact Prod.ext (Fallible.mapError_eq_ok_iff.1 result) rfl

theorem cuts_write (content : Response.Content)
    (issues : ∀ data moment, content.Sends machine.response data moment → issued data moment) :
    Cuts issued (respond content.write) machine := by
  rw [content.write_eq_sendPiece, respond_bind]
  refine (cuts_sendPiece true (fun _ => rfl) fun some => ?_).bind fun _ opened ran => ?_
  next => exact issues _ _ (.header some)
  next =>
    rw [← Response.ensureHeader_eq_sendPiece] at ran
    refine cuts_sendPiece false (fun _ => rfl) fun some => ?_
    exact issues _ _ (.content (response_of_respond ran) some)

theorem cuts_writeValues (values : List Value)
    (issues : ∀ before value later written, values = before ++ value :: later →
      writeValues before machine = (.ok (), written) → ∀ data moment,
        (Response.Content.text value.display).Sends written.response data moment →
        issued data moment) :
    Cuts issued (writeValues values) machine := by
  induction values generalizing machine with
  | nil => exact cuts_of_keeps fun _ => keeps_pure ()
  | cons value rest ih =>
    rw [writeValues]
    refine (cuts_write (.text value.display) ?_).bind fun _ after ran => ih ?_
    next => exact issues [] value rest machine rfl rfl
    next =>
      intro before following later written split wrote
      have ran : respond (Response.writeText value.display) machine = (.ok (), after) := ran
      refine issues (value :: before) following later written (by rw [split]; rfl) ?_
      rw [writeValues, bind_apply, ran]
      exact wrote

variable {name : String} {first last step value : Value} {body : Execution Unit} {entry : Machine}

theorem cuts_rounds (restores : body.Restores) (limit : Nat)
    (visits : ∀ value begun, Round name first last step body entry value begun →
      Cuts issued body begun)
    (arrives : ∀ begun, test name last machine = (.ok true, begun) →
      Round name first last step body entry value begun) :
    Cuts issued (rounds name last step body limit) machine := by
  -- The induction carries along that every test that goes on begins a round.
  induction limit generalizing value machine with
  | zero =>
    rw [rounds_zero]
    refine (cuts_of_keeps fun _ => keeps_test).bind fun goesOn begun tested => ?_
    cases goesOn with
    | false => exact cuts_of_keeps fun _ => keeps_pure ()
    | true => exact cuts_of_keeps fun _ => keeps_throw _
  | succ limit ih =>
    rw [rounds_succ]
    refine (cuts_of_keeps fun _ => keeps_test).bind fun goesOn begun tested => ?_
    cases goesOn with
    | false => exact cuts_of_keeps fun _ => keeps_pure ()
    | true =>
      have round := arrives begun tested
      refine (visits value begun round).bind fun _ visited ran => ?_
      have atEnd := (restores.same ran).trans (round.same_push restores)
      refine (cuts_of_keeps fun _ => keeps_advance).bind fun again moved advanced => ?_
      cases again with
      | false => exact cuts_of_keeps fun _ => keeps_pure ()
      | true =>
        obtain ⟨following, added, -⟩ := following_of_advance atEnd advanced
        exact ih fun begun tested => .next round ran advanced added tested

theorem cuts_loop (restores : body.Restores) (limit : Nat) (head : LoopHead)
    (visits : ∀ first last step value begun, loopOperand head.start = .ok first →
      loopOperand head.stop = .ok last →
      head.step.elim (.ok (.integer 1)) loopOperand = .ok step →
      Round head.variableName first last step body machine value begun → Cuts issued body begun) :
    Cuts issued (loop limit head body) machine := by
  have operand (result : Except RuntimeError Value) {next : Value → Execution Unit}
      (goesOn : ∀ value, result = .ok value → Cuts issued (next value) machine) :
      Cuts issued (ofResult result >>= next) machine := by
    refine (cuts_of_keeps fun _ => keeps_ofResult result).bind fun value after ran => ?_
    rw [ofResult_apply] at ran
    obtain ⟨found, rfl⟩ := Prod.ext_iff.1 ran
    exact goesOn value (Fallible.mapError_eq_ok_iff.1 found)
  refine operand _ fun first startIs => operand _ fun last lastIs => operand _ fun step stepIs => ?_
  refine (cuts_of_keeps fun _ => keeps_pushVariable _ _).bind fun _ pushed ran => ?_
  rw [pushVariable_apply] at ran
  obtain ⟨-, rfl⟩ := Prod.ext_iff.1 ran
  refine cuts_rounds restores limit (fun value begun round => ?_) fun begun tested => .first tested
  exact visits first last step value begun startIs lastIs stepIs round

end Execution

namespace Place

-- The writes that the nodes of an execution issue, each with the response at that moment.
inductive Sends (limit : Nat) (start : Place) (data : List UInt8) (moment : Response) : Prop
  | text {loops content rest} {machine : Machine}
      (reaches : Reaches limit start ⟨loops, .text content :: rest, machine⟩)
      (sends : (Response.Content.text content).Sends machine.response data moment)
  | output {loops elements rest before value later} {machine evaluated written : Machine}
      (reaches : Reaches limit start ⟨loops, .output elements :: rest, machine⟩)
      (evaluates : Execution.evaluate elements machine =
        (.ok (before ++ value :: later), evaluated))
      (writes : Execution.writeValues before evaluated = (.ok (), written))
      (sends : (Response.Content.text value.display).Sends written.response data moment)

variable {limit : Nat} {start : Place} {loops : List (LoopHead × Value)} {nodes : List Node}
  {machine after : Machine}

theorem Reaches.pastAll (reaches : Reaches limit start ⟨loops, nodes, machine⟩)
    (visit : Node.executeAll limit nodes machine = (.ok (), after)) :
    Reaches limit start ⟨loops, [], after⟩ := by
  induction nodes generalizing machine with
  | nil =>
    cases visit
    exact reaches
  | cons node rest ih =>
    rw [Node.executeAll, Execution.bind_apply] at visit
    rcases ran : node.execute limit machine with ⟨_ | _, middle⟩
    next =>
      rw [ran] at visit
      cases visit
    next =>
      rw [ran] at visit
      exact ih (reaches.past ran) visit

theorem Reaches.cuts_executeAll (reaches : Reaches limit start ⟨loops, nodes, machine⟩) :
    Execution.Cuts (Sends limit start) (Node.executeAll limit nodes) machine := by
  induction nodes using Node.siblings_induction generalizing loops machine with
  | nil => exact Execution.cuts_of_keeps fun _ => keeps_pure ()
  | text content rest ih =>
    refine (Execution.cuts_write (.text content) fun data moment sends => ?_).bind
      fun _ after ran => ih (reaches.past ran)
    exact .text reaches sends
  | output elements rest ih =>
    have evaluating : Execution.Cuts (Sends limit start) (Execution.evaluate elements) machine :=
      Execution.cuts_of_keeps fun refuses =>
        Execution.keeps_evaluate (Response.silentBisimulation_refusing refuses _) elements
    refine (evaluating.bind fun values evaluated ran => ?_).bind
      fun _ after ran => ih (reaches.past ran)
    refine Execution.cuts_writeValues values ?_
    rintro before value later written rfl writes data moment sends
    exact .output reaches ran writes sends
  | loop head children rest inside later =>
    have restores := (Node.leavesAtMost_executeAll limit children).restores
    refine (Execution.cuts_loop restores limit head ?_).bind
      fun _ after ran => later (reaches.past ran)
    intro first last step value begun startIs lastIs stepIs round
    exact inside (reaches.enter startIs lastIs stepIs round)

end Place

namespace Document

inductive Sends (limit : Nat) (document : Document) (machine : Machine) (data : List UInt8)
    (moment : Response) : Prop
  | inside (sends : Place.Sends limit ⟨[], document.children, machine⟩ data moment)
  | ending {after : Machine}
      (reaches : Place.Reaches limit ⟨[], document.children, machine⟩ ⟨[], [], after⟩)
      (sends : (Response.Content.bytes ['\n'.toUInt8]).Sends after.response data moment)

theorem cuts_executeWithin (limit : Nat) (document : Document) (machine : Machine) :
    Execution.Cuts (document.Sends limit machine) (document.executeWithin limit) machine := by
  have outset : Place.Reaches limit ⟨[], document.children, machine⟩
      ⟨[], document.children, machine⟩ := .start
  refine (outset.cuts_executeAll.mono fun _ _ => .inside).bind fun _ after ran => ?_
  refine Execution.cuts_write (.bytes ['\n'.toUInt8]) fun data moment sends => ?_
  exact .ending (outset.pastAll ran) sends

/-- Refused writes cut an execution off and do nothing else to it. If none of the writes that it
issues on a sink that refuses nothing is refused, it ends as it does there. Otherwise it fails; the
sink has taken the writes before the first one that is refused, and the rest of the response is as
it was when the execution issued that one. -/
theorem execute_cut (limit : Nat) (document : Document) (machine : Machine) :
    let entry := machine.refusing fun _ => false
    let clean := document.executeWithin limit entry
    ∃ journal, Response.Journal entry.response.sink journal clean.2.response.sink ∧
      (∀ write ∈ journal, document.Sends limit entry write.1 write.2) ∧
      ∀ refuses,
        let faulty := document.executeWithin limit (machine.refusing refuses)
        (machine.response.sink.Takes refuses journal.length →
          faulty.1 = clean.1 ∧ faulty.2.response = clean.2.response.refusing refuses) ∧
        ∀ k (within : k < journal.length), refuses (machine.response.sink.attempts + k) = true →
          machine.response.sink.Takes refuses k →
          faulty.1 = .error (.failed (.response .sinkUnavailable)) ∧
            faulty.2.response.sink.accepted =
              ((journal.take k).map Prod.fst).reverse ++ machine.response.sink.accepted ∧
            faulty.2.response = journal[k].2.refused refuses := by
  intro entry clean
  obtain ⟨journal, logged, issues, cut⟩ := document.cuts_executeWithin limit entry rfl
  refine ⟨journal, logged, issues, fun refuses => ?_⟩
  obtain ⟨whole, cutOff⟩ :=
    (cut refuses (machine.refusing refuses) ⟨Store.Same.refl _, rfl, rfl⟩).outcome
  refine ⟨whole, fun k within refused taken => ?_⟩
  obtain ⟨result, response⟩ := cutOff k within refused taken
  refine ⟨result, ?_, response⟩
  have split : journal.take k ++ journal[k] :: journal.drop (k + 1) = journal := by
    rw [← List.drop_eq_getElem_cons within, List.take_append_drop]
  rw [response]
  exact (split ▸ logged).upTo.accepted

theorem execute_cut_of_third_write :
    let document : Document :=
      ⟨[.output [.text "x"], .output [.text "v", .text "k", .call "pparamSet", .text "y"]]⟩
    let machine : Machine := { response := Response.fresh true (fun _ => false) {} {} [] }
    let faulty := document.executeWithin 1 (machine.refusing fun n => n == 2)
    faulty.1 = .error (.failed (.response .sinkUnavailable)) ∧
      faulty.2.response.sink.accepted =
        [['x'.toUInt8], machine.response.configuration.headerBytes] ∧
      ∃ moment, document.Sends 1 (machine.refusing fun _ => false) ['y'.toUInt8] moment ∧
        faulty.2.response = moment.refused fun n => n == 2 := by
  intro document machine faulty
  obtain ⟨journal, logged, issues, outcome⟩ := execute_cut 1 document machine
  let header := machine.response.configuration.headerBytes
  have taken : Sink.accepted
      (document.executeWithin 1 (machine.refusing fun _ => false)).2.response.sink =
      [['\n'.toUInt8], ['y'.toUInt8], ['x'.toUInt8], header] := by decide +kernel
  have writes : journal.map Prod.fst =
      [header, ['x'.toUInt8], ['y'.toUInt8], ['\n'.toUInt8]] := by
    have accepted : (journal.map Prod.fst).reverse ++ [] = _ := logged.accepted.symm.trans taken
    rwa [List.append_nil, List.reverse_eq_iff] at accepted
  have within : 2 < journal.length := by
    rw [← List.length_map Prod.fst, writes]
    decide
  have third : journal[2].1 = ['y'.toUInt8] := by
    have there : 2 < (journal.map Prod.fst).length := (List.length_map Prod.fst).symm ▸ within
    rw [← List.getElem_map Prod.fst (h := there), List.getElem_of_eq writes]
    rfl
  have first : machine.response.sink.Takes (fun n => n == 2) 2 := by
    intro j early
    have count : machine.response.sink.attempts + j = j := Nat.zero_add j
    rw [count]
    exact beq_eq_false_iff_ne.2 (Nat.ne_of_lt early)
  obtain ⟨result, accepted, response⟩ := (outcome fun n => n == 2).2 2 within rfl first
  -- The goal speaks of the run itself, so that nothing evaluates it.
  have run : faulty = document.executeWithin 1 (machine.refusing fun n => n == 2) := rfl
  rw [run]
  refine ⟨result, accepted.trans ?_, journal[2].2, ?_, response⟩
  next =>
    rw [List.map_take, writes]
    rfl
  next =>
    rw [← third]
    exact issues _ (List.getElem_mem within)

end Document

end Stencil
