import Stencil.Tag

set_option autoImplicit false

namespace Stencil

-- A loop whose end has not been read, and its children so far, last first.
structure OpenLoop where
  head : LoopHead
  span : Span
  children : List Node

structure Builder where
  root : List Node := []
  pending : List OpenLoop := []
  -- The first loop end without a loop.
  strayEnd : Option Span := none

namespace Builder

def add (builder : Builder) (node : Node) : Builder :=
  match builder.pending with
  | [] => { builder with root := node :: builder.root }
  | inner :: outer =>
    { builder with pending := { inner with children := node :: inner.children } :: outer }

def close (builder : Builder) (span : Span) : Builder :=
  match builder.pending with
  | [] => { builder with strayEnd := builder.strayEnd <|> some span }
  | inner :: outer =>
    { builder with pending := outer }.add (.loop inner.head inner.children.reverse)

def place (builder : Builder) (item : Item × Span) : Builder :=
  match item with
  | (.text content, _) => builder.add (.text content)
  | (.output elements, _) => builder.add (.output elements)
  | (.enter head, span) => { builder with pending := ⟨head, span, []⟩ :: builder.pending }
  | (.leave, span) => builder.close span

def finish (builder : Builder) (fileId documentEnd : Nat) : Except ParseError Document :=
  match builder.pending, builder.strayEnd with
  | inner :: outer, _ =>
    .error ⟨.unterminatedLoop (outer.length + 1) documentEnd, inner.span, fileId, []⟩
  | [], some span => .error ⟨.unmatchedEnd, span, fileId, []⟩
  | [], none => .ok ⟨builder.root.reverse⟩

end Builder

def Item.ofTokens (fileId : Nat) (tokens : List Token) : Except ParseError (List (Item × Span)) :=
  tokens.mapM fun token => (Item.ofToken fileId token).map fun item => (item, token.span)

/-- Reads a document. The error reported is the first in the order of the source; loops that do
not match come last. -/
def Document.parse (source : String) (fileId : Nat) : Except ParseError Document := do
  let (tokens, fault) := tokens fileId source
  let items ← Item.ofTokens fileId tokens
  if let some fault := fault then throw fault
  (items.foldl Builder.place {}).finish fileId source.utf8ByteSize

def Script.parse (source : String) (fileId : Nat) : Except ParseError Script :=
  (Document.parse source fileId).map fun document => ⟨document, fileId⟩

end Stencil
