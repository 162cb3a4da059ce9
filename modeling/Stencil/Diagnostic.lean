import Stencil.ParseError

set_option autoImplicit false

namespace Stencil

inductive Severity
  | error
  | warning
  deriving DecidableEq, Repr

structure Label where
  isPrimary : Bool
  fileId : Nat
  range : Span
  message : String
  deriving DecidableEq, Repr

structure Diagnostic where
  severity : Severity
  code : Option String
  message : String
  labels : List Label
  notes : List String
  deriving DecidableEq, Repr

def ParseError.toDiagnostic (e : ParseError) : Diagnostic where
  severity := .error
  code := none
  message := e.message
  labels := [⟨true, e.fileId, e.span, ""⟩]
  notes := e.notes

end Stencil
