import Stencil.Element

set_option autoImplicit false

namespace Stencil

-- What a loop tag states: the variable, its bounds, and its step unless that is one.
structure LoopHead where
  variableName : String
  start : Element
  stop : Element
  step : Option Element
  deriving DecidableEq

inductive Node
  | text (content : String)
  | output (elements : List Element)
  | loop (head : LoopHead) (children : List Node)
  deriving Inhabited

structure Document where
  children : List Node

/-- Equality of elements with doubles compared as numbers: a NaN differs from itself. -/
def Element.same : Element → Element → Bool
  | .double a, .double b => a == b
  | a, b => a = b

def LoopHead.same (a b : LoopHead) : Bool :=
  a.variableName = b.variableName && a.start.same b.start && a.stop.same b.stop &&
    match a.step, b.step with
    | some x, some y => x.same y
    | none, none => true
    | _, _ => false

def sameElements : List Element → List Element → Bool
  | [], [] => true
  | a :: restA, b :: restB => a.same b && sameElements restA restB
  | _, _ => false

mutual

def Node.same : Node → Node → Bool
  | .text a, .text b => a = b
  | .output a, .output b => sameElements a b
  | .loop headA childrenA, .loop headB childrenB =>
    headA.same headB && Node.sameAll childrenA childrenB
  | _, _ => false

def Node.sameAll : List Node → List Node → Bool
  | [], [] => true
  | a :: restA, b :: restB => a.same b && Node.sameAll restA restB
  | _, _ => false

end

def Document.same (a b : Document) : Bool :=
  Node.sameAll a.children b.children

structure Script where
  document : Document
  sourceId : Nat

end Stencil
