import Stencil.Tag

set_option autoImplicit false

namespace Stencil

mutual

def Node.items : Node → List Item
  | .text content => [.text content]
  | .output elements => [.output elements]
  | .loop head children => .enter head :: (Node.itemsOfAll children ++ [.leave])

def Node.itemsOfAll : List Node → List Item
  | [] => []
  | node :: rest => node.items ++ Node.itemsOfAll rest

end

namespace Node

@[elab_as_elim]
theorem siblings_induction {motive : List Node → Prop} (nil : motive [])
    (text : ∀ content rest, motive rest → motive (.text content :: rest))
    (output : ∀ elements rest, motive rest → motive (.output elements :: rest))
    (loop : ∀ head children rest, motive children → motive rest →
      motive (.loop head children :: rest)) (nodes : List Node) : motive nodes :=
  -- The recursor speaks of a node and of a list; a node counts as what it may be put in front of.
  Node.rec_1 (motive_1 := fun node => ∀ rest, motive rest → motive (node :: rest))
    (motive_2 := motive) text output
    (fun head children inside rest later => loop head children rest inside later) nil
    (fun _ rest first later => first rest later) nodes

theorem itemsOfAll_append (before after : List Node) :
    itemsOfAll (before ++ after) = itemsOfAll before ++ itemsOfAll after := by
  induction before with
  | nil => rfl
  | cons node rest ih => simp [itemsOfAll, ih, List.append_assoc]

theorem itemsOfAll_singleton (node : Node) : itemsOfAll [node] = node.items := by
  simp [itemsOfAll]

end Node

end Stencil
