import Stencil.Document.Parser
import Stencil.Proofs.Document.Linear
import Stencil.Proofs.Fallible

set_option autoImplicit false

namespace Stencil

def OpenLoop.items (loop : OpenLoop) : List Item :=
  .enter loop.head :: Node.itemsOfAll loop.children.reverse

namespace Builder

def items (builder : Builder) : List Item :=
  Node.itemsOfAll builder.root.reverse ++ builder.pending.reverse.flatMap OpenLoop.items

theorem items_add (builder : Builder) (node : Node) :
    (builder.add node).items = builder.items ++ node.items := by
  obtain ⟨root, pending, strayEnd⟩ := builder
  cases pending <;>
    simp [add, items, OpenLoop.items, Node.itemsOfAll_append, Node.itemsOfAll_singleton,
      List.append_assoc]

theorem strayEnd_add (builder : Builder) (node : Node) :
    (builder.add node).strayEnd = builder.strayEnd := by
  unfold add
  split <;> rfl

theorem items_place {builder : Builder} {item : Item} {span : Span}
    (balanced : (builder.place (item, span)).strayEnd = none) :
    builder.strayEnd = none ∧ (builder.place (item, span)).items = builder.items ++ [item] := by
  cases item with
  | text content | output elements =>
    rw [place, strayEnd_add] at balanced
    rw [place, items_add]
    exact ⟨balanced, by rw [Node.items]⟩
  | enter head =>
    refine ⟨balanced, ?_⟩
    simp [place, items, OpenLoop.items, Node.itemsOfAll]
  | leave =>
    -- An end without a loop leaves a mark, and every other end puts its loop where the loop opened.
    obtain ⟨root, pending, strayEnd⟩ := builder
    cases pending with
    | nil =>
      cases strayEnd <;> simp [place, close] at balanced
    | cons inner outer =>
      simp only [place, close, strayEnd_add] at balanced
      refine ⟨balanced, ?_⟩
      rw [place, close, items_add]
      simp [items, OpenLoop.items, Node.items, List.append_assoc]

-- A mark once left stays, so a run that ends without one had none at any step.
theorem items_foldl_place {placed : List (Item × Span)} {builder : Builder}
    (balanced : (placed.foldl place builder).strayEnd = none) :
    builder.strayEnd = none ∧
      (placed.foldl place builder).items = builder.items ++ placed.map Prod.fst := by
  induction placed generalizing builder with
  | nil => exact ⟨balanced, by simp⟩
  | cons entry rest ih =>
    obtain ⟨noStray, later⟩ := ih balanced
    obtain ⟨before, now⟩ := items_place noStray
    refine ⟨before, ?_⟩
    rw [List.foldl_cons, later, now]
    simp

theorem finish_eq_ok_iff {builder : Builder} {fileId documentEnd : Nat} {document : Document} :
    builder.finish fileId documentEnd = .ok document ↔
      builder.pending = [] ∧ builder.strayEnd = none ∧
        document.children = builder.root.reverse := by
  obtain ⟨root, pending, strayEnd⟩ := builder
  obtain ⟨children⟩ := document
  cases pending <;> cases strayEnd <;> simp [finish, eq_comm]

theorem itemsOfAll_of_finish {placed : List (Item × Span)} {fileId documentEnd : Nat}
    {document : Document}
    (finished : (placed.foldl place {}).finish fileId documentEnd = .ok document) :
    Node.itemsOfAll document.children = placed.map Prod.fst := by
  obtain ⟨closed, noStray, children⟩ := finish_eq_ok_iff.1 finished
  have line := (items_foldl_place noStray).2
  rw [items, closed, ← children] at line
  simpa [items, Node.itemsOfAll] using line

theorem foldl_add_root (nodes root : List Node) (strayEnd : Option Span) :
    nodes.foldl add ⟨root, [], strayEnd⟩ = ⟨nodes.reverse ++ root, [], strayEnd⟩ := by
  induction nodes generalizing root with
  | nil => rfl
  | cons node rest ih => simp [add, ih]

theorem foldl_add_pending (nodes root : List Node) (inner : OpenLoop) (outer : List OpenLoop)
    (strayEnd : Option Span) :
    nodes.foldl add ⟨root, inner :: outer, strayEnd⟩ =
      ⟨root, { inner with children := nodes.reverse ++ inner.children } :: outer, strayEnd⟩ := by
  induction nodes generalizing inner with
  | nil => rfl
  | cons node rest ih => simp [add, ih]

-- The converse goes by the tree: the items of a loop build the loop whatever is open around it.
theorem foldl_place_itemsOfAll {nodes : List Node} {placed : List (Item × Span)}
    (line : placed.map Prod.fst = Node.itemsOfAll nodes) (builder : Builder) :
    placed.foldl place builder = nodes.foldl add builder := by
  induction nodes using Node.siblings_induction generalizing placed builder with
  | nil =>
    have empty : placed = [] := by simpa [Node.itemsOfAll] using line
    simp [empty]
  | text content rest ih | output elements rest ih =>
    obtain ⟨⟨item, span⟩, later, rfl, same, after⟩ := List.map_eq_cons_iff.1 line
    cases same
    rw [List.foldl_cons, List.foldl_cons, ih after]
    rfl
  | loop head children rest inside after =>
    obtain ⟨whole, later, rfl, loopLine, afterLine⟩ := List.map_eq_append_iff.1 line
    obtain ⟨⟨item, span⟩, body, rfl, same, bodyLine⟩ := List.map_eq_cons_iff.1 loopLine
    cases same
    obtain ⟨within, ending, rfl, insideLine, endLine⟩ := List.map_eq_append_iff.1 bodyLine
    obtain ⟨⟨item, stop⟩, nothing, rfl, same, noLine⟩ := List.map_eq_cons_iff.1 endLine
    cases same
    cases List.map_eq_nil_iff.1 noLine
    -- The loop opens with no children, gathers its own, and is closed as one node.
    have opened : List.foldl place (builder.place (.enter head, span)) within =
        { builder with pending := ⟨head, span, children.reverse⟩ :: builder.pending } := by
      rw [inside insideLine, place, foldl_add_pending, List.append_nil]
    rw [List.foldl_append, List.foldl_cons, List.foldl_append, opened, after afterLine,
      List.foldl_cons]
    simp [place, close]

theorem finish_of_itemsOfAll {placed : List (Item × Span)} {document : Document}
    (line : placed.map Prod.fst = Node.itemsOfAll document.children) (fileId documentEnd : Nat) :
    (placed.foldl place {}).finish fileId documentEnd = .ok document := by
  rw [foldl_place_itemsOfAll line, foldl_add_root]
  simp [finish]

end Builder

/-- From a place on, every token is an item by itself, and the items are these. -/
def Cursor.Spells (fileId : Nat) (cursor : Cursor) (items : List Item) : Prop :=
  (tokensFrom fileId cursor).2 = none ∧
    List.Forall₂ (fun token item => Item.ofToken fileId token = .ok item)
      (tokensFrom fileId cursor).1 items

theorem Item.forall₂_ofToken_iff {fileId : Nat} {tokens : List Token} {items : List Item} :
    List.Forall₂ (fun token item => Item.ofToken fileId token = .ok item) tokens items ↔
      ∃ placed, Item.ofTokens fileId tokens = .ok placed ∧ placed.map Prod.fst = items := by
  simp only [ofTokens, Fallible.mapM_eq_ok_iff, Fallible.map_eq_ok_iff]
  constructor
  next =>
    intro read
    induction read with
    | nil => exact ⟨[], .nil, rfl⟩
    | @cons token item _ _ first _ ih =>
      obtain ⟨placed, others, rfl⟩ := ih
      exact ⟨(item, token.span) :: placed, .cons ⟨item, first, rfl⟩ others, rfl⟩
  next =>
    rintro ⟨placed, read, rfl⟩
    rw [List.forall₂_map_right_iff]
    refine read.imp ?_
    rintro token entry ⟨item, first, rfl⟩
    exact first

namespace Document

theorem parse_eq_ok_iff_finish {source : String} {fileId : Nat} {document : Document} :
    Document.parse source fileId = .ok document ↔
      (tokens fileId source).2 = none ∧
        ∃ placed, Item.ofTokens fileId (tokens fileId source).1 = .ok placed ∧
          (placed.foldl Builder.place {}).finish fileId source.utf8ByteSize = .ok document := by
  unfold Document.parse
  generalize tokens fileId source = tokenized
  obtain ⟨tokens, fault⟩ := tokenized
  cases fault <;> cases read : Item.ofTokens fileId tokens <;>
    simp [read, bind, Except.bind, throw, throwThe, MonadExceptOf.throw]

theorem parse_of_spells {source : String} {fileId : Nat} {document : Document}
    (spelled : (Cursor.start source).Spells fileId (Node.itemsOfAll document.children)) :
    Document.parse source fileId = .ok document := by
  obtain ⟨placed, read, line⟩ := Item.forall₂_ofToken_iff.1 spelled.2
  exact parse_eq_ok_iff_finish.2
    ⟨spelled.1, placed, read, Builder.finish_of_itemsOfAll line fileId _⟩

theorem spells_of_parse {source : String} {fileId : Nat} {document : Document}
    (parsed : Document.parse source fileId = .ok document) :
    (Cursor.start source).Spells fileId (Node.itemsOfAll document.children) := by
  obtain ⟨complete, placed, read, finished⟩ := parse_eq_ok_iff_finish.1 parsed
  exact ⟨complete, Item.forall₂_ofToken_iff.2
    ⟨placed, read, (Builder.itemsOfAll_of_finish finished).symm⟩⟩

/-- A source is read as a document exactly if all its tokens are items and the items, in order,
are those of the document. -/
theorem parse_eq_ok_iff_items (source : String) (fileId : Nat) (document : Document) :
    Document.parse source fileId = .ok document ↔
      (tokens fileId source).2 = none ∧
        List.Forall₂ (fun token item => Item.ofToken fileId token = .ok item)
          (tokens fileId source).1 (Node.itemsOfAll document.children) :=
  ⟨spells_of_parse, parse_of_spells⟩

end Document

end Stencil
