import Stencil.Document.Writer
import Stencil.Proofs.Document.Linear
import Stencil.Proofs.Tag.Spelling

set_option autoImplicit false

namespace Stencil

namespace Item

def isText : Item → Bool
  | text _ => true
  | _ => false

def isWritable : Item → Bool
  | enter head => head.isWritable
  | output elements => elements.all Element.isWritable
  | text _ | leave => true

def areCompact : List Item → Bool
  | [] => true
  | text content :: rest => content ≠ "" && !rest.head?.any isText && areCompact rest
  | _ :: rest => areCompact rest

def joinText (content : String) (items : List Item) : List Item :=
  if content = "" then items
  else
    match items with
    | text more :: rest => text (content ++ more) :: rest
    | _ => text content :: items

theorem joinText_empty (items : List Item) : joinText "" items = items := rfl

theorem joinText_text {content : String} (some : content ≠ "") (more : String)
    (rest : List Item) :
    joinText content (text more :: rest) = text (content ++ more) :: rest := by
  simp [joinText, some]

theorem joinText_of_noText {content : String} (some : content ≠ "") {items : List Item}
    (noText : items.head?.any isText = false) :
    joinText content items = text content :: items := by
  simp only [joinText, if_neg some]
  cases items with
  | nil => rfl
  | cons item rest => cases item <;> first | rfl | cases noText

end Item

def Node.isText : Node → Bool
  | .text _ => true
  | _ => false

mutual

def Node.isWritable : Node → Bool
  | .text _ => true
  | .output elements => elements.all Element.isWritable
  | .loop head children => head.isWritable && Node.areWritable children

def Node.areWritable : List Node → Bool
  | [] => true
  | node :: rest => node.isWritable && Node.areWritable rest

end

mutual

def Node.isCompact : Node → Bool
  | .text content => content ≠ ""
  | .output _ => true
  | .loop _ children => Node.areCompact children

-- Whether no text is empty and no text follows another, here and at every depth below.
def Node.areCompact : List Node → Bool
  | [] => true
  | node :: rest =>
    node.isCompact && !(node.isText && rest.head?.any Node.isText) && Node.areCompact rest

end

def Node.joinText (content : String) (siblings : List Node) : List Node :=
  if content = "" then siblings
  else
    match siblings with
    | .text more :: rest => .text (content ++ more) :: rest
    | _ => .text content :: siblings

def Node.join : Node → List Node → List Node
  | .text content, siblings => joinText content siblings
  | node, siblings => node :: siblings

mutual

def Node.normal : Node → Node
  | .loop head children => .loop head (Node.normalAll children)
  | node => node

/-- Empty texts left out and adjacent texts joined, here and at every depth below. -/
def Node.normalAll : List Node → List Node
  | [] => []
  | node :: rest => Node.join node.normal (Node.normalAll rest)

end

namespace Node

theorem all_isWritable_itemsOfAll (nodes : List Node) :
    (itemsOfAll nodes).all Item.isWritable = areWritable nodes := by
  induction nodes using siblings_induction with
  | nil => rfl
  | text content rest ih | output elements rest ih =>
    simp [itemsOfAll, items, areWritable, isWritable, Item.isWritable, ih]
  | loop head children rest inside after =>
    simp only [itemsOfAll, items, areWritable, isWritable, Item.isWritable, List.all_append,
      List.all_cons, List.all_nil, inside, after, Bool.and_true, Bool.and_assoc]

theorem any_isText_head?_itemsOfAll (nodes : List Node) (items : List Item)
    (noText : items.head?.any Item.isText = false) :
    (itemsOfAll nodes ++ items).head?.any Item.isText = nodes.head?.any isText := by
  cases nodes with
  | nil => simpa [itemsOfAll] using noText
  | cons node rest => cases node <;> rfl

theorem areCompact_itemsOfAll_append (nodes : List Node) (items : List Item)
    (noText : items.head?.any Item.isText = false) :
    Item.areCompact (itemsOfAll nodes ++ items) = (areCompact nodes && Item.areCompact items) := by
  induction nodes using siblings_induction generalizing items with
  | nil => rfl
  | text content rest ih =>
    have next := any_isText_head?_itemsOfAll rest items noText
    simp only [itemsOfAll, Node.items, List.cons_append, List.nil_append, Item.areCompact, next,
      ih items noText, areCompact, isCompact, isText, Bool.true_and, Bool.and_assoc]
  | output elements rest ih =>
    simp [itemsOfAll, Node.items, Item.areCompact, areCompact, isCompact, isText, ih items noText]
  | loop head children rest inside after =>
    -- The children end where an end stands, which is no text.
    have inner := inside (.leave :: (itemsOfAll rest ++ items)) rfl
    simp only [itemsOfAll, Node.items, List.cons_append, List.append_assoc, List.nil_append,
      Item.areCompact, inner, after items noText, areCompact, isCompact, isText, Bool.false_and,
      Bool.not_false, Bool.and_true, Bool.and_assoc]

theorem areCompact_itemsOfAll (nodes : List Node) :
    Item.areCompact (itemsOfAll nodes) = areCompact nodes := by
  have line := areCompact_itemsOfAll_append nodes [] rfl
  rwa [List.append_nil, Item.areCompact, Bool.and_true] at line

theorem itemsOfAll_joinText (content : String) (siblings : List Node) (items : List Item)
    (noText : items.head?.any Item.isText = false) :
    itemsOfAll (joinText content siblings) ++ items =
      Item.joinText content (itemsOfAll siblings ++ items) := by
  by_cases empty : content = ""
  next => simp only [joinText, Item.joinText, if_pos empty]
  next =>
    simp only [joinText, Item.joinText, if_neg empty]
    cases siblings with
    | nil =>
      cases items with
      | nil => rfl
      | cons item rest => cases item <;> first | rfl | cases noText
    | cons node rest => cases node <;> rfl

theorem join_of_areCompact {node : Node} {rest : List Node}
    (compact : areCompact (node :: rest) = true) : join node rest = node :: rest := by
  cases node with
  | output elements | loop head children => rfl
  | text content =>
    simp only [areCompact, isCompact, isText, Bool.and_eq_true, decide_eq_true_eq] at compact
    obtain ⟨⟨some, apart⟩, -⟩ := compact
    simp only [join, joinText, if_neg some]
    cases rest with
    | nil => rfl
    | cons next later => cases next <;> first | rfl | cases apart

theorem areCompact_joinText (content : String) {siblings : List Node}
    (compact : areCompact siblings = true) : areCompact (joinText content siblings) = true := by
  by_cases empty : content = ""
  next => simpa only [joinText, if_pos empty] using compact
  next =>
    simp only [joinText, if_neg empty]
    cases siblings with
    | nil => simp [areCompact, isCompact, empty]
    | cons node rest => cases node <;> simp_all [areCompact, isCompact, isText]

theorem areCompact_normalAll (nodes : List Node) : areCompact (normalAll nodes) = true := by
  induction nodes using siblings_induction with
  | nil => rfl
  | text content rest ih =>
    rw [normalAll, normal, join]
    next => exact areCompact_joinText content ih
    next => simp
  | output elements rest ih =>
    simp [normalAll, normal, join, areCompact, isCompact, isText, ih]
  | loop head children rest inside after =>
    simp [normalAll, normal, join, areCompact, isCompact, isText, inside, after]

theorem normalAll_of_areCompact {nodes : List Node} (compact : areCompact nodes = true) :
    normalAll nodes = nodes := by
  induction nodes using siblings_induction with
  | nil => rfl
  | text content rest ih | output elements rest ih =>
    have later : normalAll rest = rest := by
      simp only [areCompact, Bool.and_eq_true] at compact
      exact ih compact.2
    rw [normalAll, later, normal]
    next => exact join_of_areCompact compact
    next => simp
  | loop head children rest inside after =>
    have both : normalAll children = children ∧ normalAll rest = rest := by
      simp only [areCompact, isCompact, Bool.and_eq_true] at compact
      exact ⟨inside compact.1.1, after compact.2⟩
    rw [normalAll, normal, both.1, both.2, join]
    simp

end Node

namespace Document

/-- Whether every name is a name, every double finite, and every operand of a loop one word that
is no function and no operator. -/
def isWritable (document : Document) : Bool :=
  Node.areWritable document.children

def isCompact (document : Document) : Bool :=
  Node.areCompact document.children

def normal (document : Document) : Document :=
  ⟨Node.normalAll document.children⟩

theorem isCompact_normal (document : Document) : document.normal.isCompact = true :=
  Node.areCompact_normalAll document.children

theorem normal_of_isCompact {document : Document} (compact : document.isCompact = true) :
    document.normal = document := by
  rw [normal, Node.normalAll_of_areCompact compact]

end Document

end Stencil
