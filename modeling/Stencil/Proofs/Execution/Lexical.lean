import Stencil.Proofs.Execution.Environment

set_option autoImplicit false

namespace Stencil

namespace Execution

variable {name : String} {stop step start value : Value} {body : Execution Unit}
  {entry machine : Machine}

/-- The rounds that a loop comes to when it is entered on a machine: the value of the counter, and
the machine on which the round begins. -/
inductive Round (name : String) (start stop step : Value) (body : Execution Unit)
    (entry : Machine) : Value → Machine → Prop
  | first {begun : Machine}
      (tested : test name stop { entry with store := entry.store.push name start } =
        (.ok true, begun)) : Round name start stop step body entry start begun
  | next {value following : Value} {machine visited moved begun : Machine}
      (before : Round name start stop step body entry value machine)
      (visit : body machine = (.ok (), visited))
      (advanced : advance name stop step visited = (.ok true, moved))
      (added : value.add step = .ok following)
      (tested : test name stop moved = (.ok true, begun)) :
      Round name start stop step body entry following begun

theorem Round.same_push (restores : body.Restores)
    (round : Round name start stop step body entry value machine) :
    machine.store.Same (entry.store.push name value) := by
  induction round with
  | first tested =>
    have top := Store.Same.refl (entry.store.push name start)
    rw [machine_eq_of_test top tested]
    exact top
  | next before visit advanced added tested ih =>
    have moved := same_push_of_advance ((restores.same visit).trans ih) advanced added
    rw [machine_eq_of_test moved tested]
    exact moved

end Execution

-- Whether a node stands in a list of nodes, or in a loop of it, and so on; with the heads of the
-- loops that are around it, the innermost first.
inductive Node.Within (nodes : List Node) : List LoopHead → Node → Prop
  | top {node : Node} (member : node ∈ nodes) : Within nodes [] node
  | inside {heads head children node} (loop : Within nodes heads (.loop head children))
      (member : node ∈ children) : Within nodes (head :: heads) node

/-- Where an execution stands: inside loops, the innermost first, whose counters have values; before
nodes that are left to visit there; with a machine. -/
structure Place where
  loops : List (LoopHead × Value)
  nodes : List Node
  machine : Machine

def Place.outset (nodes : List Node) (response : Response) : Place :=
  ⟨[], nodes, ⟨Store.empty, response⟩⟩

inductive Place.Reaches (limit : Nat) (start : Place) : Place → Prop
  | start : Reaches limit start start
  | past {loops node rest} {machine after : Machine}
      (before : Reaches limit start ⟨loops, node :: rest, machine⟩)
      (visit : node.execute limit machine = (.ok (), after)) :
      Reaches limit start ⟨loops, rest, after⟩
  | enter {loops head children rest} {machine begun : Machine} {first last step value : Value}
      (before : Reaches limit start ⟨loops, .loop head children :: rest, machine⟩)
      (startIs : Execution.loopOperand head.start = .ok first)
      (lastIs : Execution.loopOperand head.stop = .ok last)
      (stepIs : head.step.elim (.ok (.integer 1)) Execution.loopOperand = .ok step)
      (round : Execution.Round head.variableName first last step
        (Node.executeAll limit children) machine value begun) :
      Reaches limit start ⟨(head, value) :: loops, children, begun⟩

namespace Place

variable {limit : Nat} {start place : Place} {nodes : List Node} {response : Response}

def environment (place : Place) : Environment :=
  place.loops.map fun turn => (turn.1.variableName, turn.2)

theorem Reaches.within (reaches : Reaches limit (outset nodes response) place) :
    ∀ node ∈ place.nodes, Node.Within nodes (place.loops.map Prod.fst) node := by
  induction reaches with
  | start => exact fun node member => .top member
  | past before visit ih => exact fun node member => ih node (List.mem_cons_of_mem _ member)
  | enter before startIs lastIs stepIs round ih =>
    exact fun node member => .inside (ih _ List.mem_cons_self) member

theorem Reaches.same_store (reaches : Reaches limit (outset nodes response) place) :
    place.machine.store.Same place.environment.store := by
  induction reaches with
  | start => exact Store.Same.refl _
  | past before visit ih => exact ((Node.leavesAtMost_execute limit _).restores.same visit).trans ih
  | enter before startIs lastIs stepIs round ih =>
    exact (round.same_push (Node.leavesAtMost_executeAll limit _).restores).trans (ih.push _ _)

theorem Reaches.element_var (reaches : Reaches limit (outset nodes response) place)
    (name : String) (frame : Frame) :
    Evaluation.element place.machine.store (.var name) frame =
      match place.loops.find? (fun turn => turn.1.variableName = name) with
      | some turn => (.ok (), { frame with stack := turn.2 :: frame.stack })
      | none => (.error (.noSuchEntry name), frame) := by
  have found : place.environment.lookup name =
      (place.loops.find? (fun turn => turn.1.variableName = name)).map Prod.snd := by
    rw [environment]
    induction place.loops with
    | nil => rfl
    | cons turn rest ih =>
      rw [List.map_cons, Entries.lookup_cons_eq, List.find?_cons, ih]
      by_cases named : turn.1.variableName = name
      next => simp [named]
      next => simp [named, Ne.symm named]
  rw [Evaluation.element_congr reaches.same_store, Evaluation.element_store,
    Evaluation.elementIn, found]
  cases place.loops.find? (fun turn => turn.1.variableName = name) <;> rfl

end Place

/-- A variable of an output tag that an execution comes to is undefined if and only if no loop
around the tag is over it, and otherwise it is the counter of the innermost of these loops. So an
execution on an empty store does to a response what it does with environments. -/
theorem Document.execute_lexically (document : Document) (limit : Nat) (response : Response) :
    (∀ loops elements rest machine,
      Place.Reaches limit (.outset document.children response)
        ⟨loops, .output elements :: rest, machine⟩ →
      Node.Within document.children (loops.map Prod.fst) (.output elements) ∧
      ∀ name, .var name ∈ elements → ∀ frame,
        ((Evaluation.element machine.store (.var name) frame).1 = .error (.noSuchEntry name) ↔
          ∀ turn ∈ loops, turn.1.variableName ≠ name) ∧
        ∀ head value, loops.find? (fun turn => turn.1.variableName = name) = some (head, value) →
          Evaluation.element machine.store (.var name) frame =
            (.ok (), { frame with stack := value :: frame.stack })) ∧
    Execution.effect (document.executeWithin limit) Store.empty response =
      document.effect limit response := by
  refine ⟨fun loops elements rest machine reaches => ⟨?_, fun name _ frame => ⟨?_, ?_⟩⟩, ?_⟩
  next => exact reaches.within _ List.mem_cons_self
  next =>
    have unscoped : loops.find? (fun turn => turn.1.variableName = name) = none ↔
        ∀ turn ∈ loops, turn.1.variableName ≠ name := by
      simp [List.find?_eq_none]
    rw [reaches.element_var, ← unscoped]
    dsimp only
    cases loops.find? (fun turn => turn.1.variableName = name) <;> simp
  next =>
    intro head value innermost
    rw [reaches.element_var]
    dsimp only
    rw [innermost]
  next => rw [document.effect_executeWithin]

theorem Document.execute_lexically_after_inner_loop :
    let outer : LoopHead := ⟨"i", .integer 1, .integer 2, none⟩
    let inner : Node := .loop ⟨"i", .integer 5, .integer 6, none⟩ []
    let tag : Node := .output [.var "i", .text "n", .call "tparamSet"]
    ∃ machine,
      Place.Reaches 3 (.outset [.loop outer [inner, tag]] {}) ⟨[(outer, .integer 2)], [tag], machine⟩ ∧
        Evaluation.element machine.store (.var "i") ⟨[], {}⟩ = (.ok (), ⟨[.integer 2], {}⟩) := by
  intro outer inner tag
  have run {α : Type} {run : Except Halt α × Machine} {value : α} (done : run.1 = .ok value) :
      run = (.ok value, run.2) := Prod.ext done rfl
  have reaches : ∃ machine, Place.Reaches 3 (.outset [.loop outer [inner, tag]] {})
      ⟨[(outer, .integer 2)], [tag], machine⟩ :=
    ⟨_, .past (.enter .start rfl rfl rfl
      (.next (.first (run rfl)) (run rfl) (run rfl) rfl (run rfl))) (run rfl)⟩
  obtain ⟨machine, reached⟩ := reaches
  have lexical := (execute_lexically ⟨[.loop outer [inner, tag]]⟩ 3 {}).1 _ _ _ _ reached
  exact ⟨machine, reached, (lexical.2 "i" (by simp) ⟨[], {}⟩).2 outer (.integer 2) rfl⟩

end Stencil
