import Stencil.CommandLine.Invocation
import Stencil.Diagnostic.Report
import Stencil.Document.Outline
import Stencil.Document.Writer
import Stencil.Fixture.Suite

set_option autoImplicit false

namespace Stencil.CommandLine

structure Outcome where
  exitCode : Nat := 0
  stdout : List UInt8 := []
  stderr : String := ""
  deriving DecidableEq, Repr

namespace Outcome

def failure (message : String) : Outcome :=
  { exitCode := 1, stderr := "error: " ++ message ++ "\n" }

def text (content : String) : Outcome :=
  { stdout := Text.utf8Bytes content.toList }

def ofReport (report : SuiteReport) : Outcome :=
  { exitCode := report.exitCode, stderr := String.join (report.lines.map (· ++ "\n")) }

end Outcome

def readText (disk : Disk) (path : String) : Except ReadError String :=
  (disk path).bind FileTree.text

def cannotRead (path : String) (e : ReadError) : String :=
  "cannot read '" ++ path ++ "': " ++ e.message

def readParameterFile (disk : Disk) (path : String) : Except String ParameterFile :=
  match readText disk path with
  | .error e => .error (cannotRead path e)
  | .ok content =>
    (ParameterFile.read content).mapError fun fault =>
      "TOML parse error in '" ++ path ++ "': " ++ fault.message

namespace RunOptions

-- The parameters and the persistent parameters: those of the file, over which those of the command
-- line win.
def scopes (disk : Disk) (options : RunOptions) : Except String (Scope × Scope) := do
  let file ← match options.parameterFile with
    | none => .ok {}
    | some path => readParameterFile disk path
  return (Scope.ofPairs (file.params.parameters ++ options.params),
    Scope.ofPairs (file.persistent.parameters ++ options.persistent))

def ofRendering (options : RunOptions) (rendering : Rendering) : Outcome :=
  let stdout := if options.quiet then [] else rendering.output
  match rendering.outcome with
  | .ok () => { stdout }
  | .error e => { exitCode := 1, stdout, stderr := "runtime error: " ++ e.message ++ "\n" }

def renderWithin (limit : Nat) (disk : Disk) (options : RunOptions) (document : Document) :
    Option Outcome :=
  match options.scopes disk with
  | .error message => some (.failure message)
  | .ok (parameters, persistent) =>
    (document.renderWithin limit parameters persistent options.headers).map options.ofRendering

def performWithin (limit : Nat) (disk : Disk) (options : RunOptions) : Option Outcome :=
  match readText disk options.file with
  | .error e => some (.failure (cannotRead options.file e))
  | .ok content =>
    match Script.parse content 0 with
    | .error e =>
      some { exitCode := 1, stderr := e.toDiagnostic.report ⟨options.file, content.toList⟩ }
    | .ok script =>
      if options.check then some { stderr := "ok: " ++ options.file ++ " parsed successfully\n" }
      else if options.tree then some (.text script.document.source)
      else if options.ast then some (.text script.document.outline.render)
      else options.renderWithin limit disk script.document

end RunOptions

def TestOptions.performWithin (limit : Nat) (color : Bool) (disk : Disk) (options : TestOptions) :
    Option Outcome :=
  let found := disk options.path
  let report :=
    if options.listCategories then some (SuiteReport.list options.path found)
    else SuiteReport.runWithin limit color options.path options.categories found
  report.map Outcome.ofReport

def Invocation.performWithin (limit : Nat) (disk : Disk) (invocation : Invocation) :
    Option Outcome :=
  match invocation.command with
  | .run options => options.performWithin limit disk
  | .test options => options.performWithin limit invocation.color disk

def Level.usage : Level → String
  | root =>
    "SmartScript template engine\n\nUsage: smscr [OPTIONS] <COMMAND>\n\n" ++
      "Commands: run, test, help\n"
  | run => "Render a SmartScript document\n\nUsage: smscr run [OPTIONS] <FILE>\n"
  | test => "Run .test.smscr test files\n\nUsage: smscr test [OPTIONS] <PATH>\n"

def Stop.outcome : Stop → Outcome
  | refused e =>
    { exitCode := 2
      stderr := "error: " ++ e.message ++ "\n\nFor more information, try '--help'.\n" }
  | bare => { exitCode := 2, stderr := Level.root.usage }
  | help level => .text level.usage
  | version => .text "smscr 0.1.0\n"

/-- What a command line comes to, with so many rounds for a loop of a script that it runs. -/
def performWithin (limit : Nat) (disk : Disk) (arguments : List String) : Option Outcome :=
  match Invocation.read arguments with
  | .ok invocation => invocation.performWithin limit disk
  | .error stop => some stop.outcome

end Stencil.CommandLine
