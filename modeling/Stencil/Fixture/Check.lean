import Stencil.Document.Parser
import Stencil.Fixture.FrontMatter
import Stencil.Rendering

set_option autoImplicit false

namespace Stencil

inductive Mismatch
  | noParseError
  | otherParseError (part message : String)
  | parseError (message : String)
  | noError (part : String)
  | otherError (part message : String)
  | runtimeError (message : String)
  | output (expected actual : String)
  | persistent (expected actual : Scope)
  deriving DecidableEq, Repr

def Scope.summary (scope : Scope) : String :=
  let pairs := scope.entries.map fun (name, value) => name ++ "=" ++ value
  "\x7b" ++ ", ".intercalate (pairs.mergeSort fun a b => a ≤ b) ++ "\x7d"

def Mismatch.message : Mismatch → String
  | noParseError => "expected parse error, but parsing succeeded"
  | otherParseError part message =>
    "expected parse error containing \"" ++ part ++ "\", got: " ++ message
  | parseError message => "unexpected parse error: " ++ message
  | noError part =>
    "expected error containing \"" ++ part ++ "\", but execution succeeded"
  | otherError part message => "expected error containing \"" ++ part ++ "\", got: " ++ message
  | runtimeError message => "unexpected runtime error: " ++ message
  | output expected actual =>
    "output mismatch\n  expected: " ++ expected ++ "\n  actual:   " ++ actual
  | persistent expected actual =>
    "persistent parameters mismatch\n  expected: " ++ expected.summary ++ "\n  actual:   " ++
      actual.summary

def trimText (text : String) : String :=
  String.ofList (Text.trim text.toList)

namespace FrontMatter

def checkOutcome (expected : FrontMatter) (rendering : Rendering) : Option Mismatch :=
  -- An expected error takes the place of an expected output.
  match expected.expectError, expected.expectOutput, rendering.outcome with
  | some part, _, .error e =>
    if Text.containsText part.toList e.message.toList then none
    else some (.otherError part e.message)
  | some part, _, .ok () => some (.noError part)
  | none, _, .error e => some (.runtimeError e.message)
  | none, some output, .ok () =>
    let actual := trimText rendering.text
    if actual = trimText output then none else some (.output (trimText output) actual)
  | none, none, .ok () => none

def checkPersistent (expected : FrontMatter) (rendering : Rendering) : Option Mismatch :=
  expected.expectPersistent.bind fun table =>
    let wanted := Scope.ofPairs table.parameters
    if wanted.agrees rendering.persistent then none
    else some (.persistent wanted rendering.persistent)

def wantedParseError (expected : FrontMatter) : Option ExpectedParseError :=
  expected.expectParseError.filter fun wanted => wanted ≠ .any false

def checkRefusal (wanted : ExpectedParseError) (parsed : Except ParseError Script) :
    Option Mismatch :=
  match parsed, wanted with
  | .ok _, _ => some .noParseError
  | .error e, .containing part =>
    if Text.containsText part.toList e.message.toList then none
    else some (.otherParseError part e.message)
  | .error _, .any _ => none

def renderWithin (limit : Nat) (expected : FrontMatter) (script : Script) : Option Rendering :=
  script.document.renderWithin limit (Scope.ofPairs expected.params.parameters)
    (Scope.ofPairs expected.persistent.parameters) false

/-- What is not as expected, if anything. The script is run with so many rounds for a loop, and if
they are too few for it there is no answer. -/
def checkWithin (limit : Nat) (expected : FrontMatter) (source : String) :
    Option (Option Mismatch) :=
  let parsed := Script.parse source 0
  match expected.wantedParseError with
  | some wanted => some (checkRefusal wanted parsed)
  | none =>
    match parsed with
    | .error e => some (some (.parseError e.message))
    | .ok script =>
      (expected.renderWithin limit script).map fun rendering =>
        (expected.checkOutcome rendering).or (expected.checkPersistent rendering)

end FrontMatter

end Stencil
