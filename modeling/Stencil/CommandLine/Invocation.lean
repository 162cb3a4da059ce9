import Stencil.CommandLine.Arguments

set_option autoImplicit false

namespace Stencil.CommandLine

structure RunOptions where
  file : String
  params : List (String × String) := []
  persistent : List (String × String) := []
  parameterFile : Option String := none
  headers : Bool := false
  check : Bool := false
  tree : Bool := false
  ast : Bool := false
  quiet : Bool := false
  deriving DecidableEq, Repr

structure TestOptions where
  path : String
  categories : List String := []
  listCategories : Bool := false
  deriving DecidableEq, Repr

inductive Command
  | run (options : RunOptions)
  | test (options : TestOptions)
  deriving DecidableEq, Repr

def Command.paths : Command → List String
  | run options => options.file :: options.parameterFile.toList
  | test options => [options.path]

structure Invocation where
  command : Command
  color : Bool
  deriving DecidableEq, Repr

inductive Verb
  | run
  | test
  | help
  deriving DecidableEq, Repr

def Verb.ofName? : String → Option Verb
  | "run" => some run
  | "test" => some test
  | "help" => some help
  | _ => none

def RunOptions.ofArguments (file : String) (arguments : Arguments) : RunOptions where
  file := file
  params := arguments.pairs .param
  persistent := arguments.pairs .persistent
  parameterFile := (arguments.values .parameterFile).head?
  headers := arguments.has .headers
  check := arguments.has .check
  tree := arguments.has .tree
  ast := arguments.has .ast
  quiet := arguments.has .quiet

def TestOptions.ofArguments (path : String) (arguments : Arguments) : TestOptions where
  path := path
  categories := arguments.values .category
  listCategories := arguments.has .listCategories

namespace Invocation

def readCommand (level : Level) (before : Arguments) (rest : List String)
    (command : String → Arguments → Command) : Except Stop Invocation :=
  (Arguments.readAll level rest).bind fun arguments =>
    match arguments.operand with
    | none => .error (.refused .missingOperand)
    | some operand =>
      .ok ⟨command operand arguments, !(before.has .noColor || arguments.has .noColor)⟩

def readHelp (level : Level) : List String → Stop
  | [] => .help level
  | name :: rest =>
    match level, Verb.ofName? name with
    | .root, some .run => readHelp .run rest
    | .root, some .test => readHelp .test rest
    | .root, some .help => rest.head?.elim (.help .root) fun next => .refused (.unknownCommand next)
    | _, _ => .refused (.unknownCommand name)

def readFrom (before : Arguments) : List String → Except Stop Invocation
  | [] => .error (if before.given.isEmpty then .bare else .refused .missingCommand)
  | argument :: rest =>
    match before.escaped, Verb.ofName? argument with
    | false, some .run =>
      readCommand .run before rest fun file arguments => .run (.ofArguments file arguments)
    | false, some .test =>
      readCommand .test before rest fun path arguments => .test (.ofArguments path arguments)
    | false, some .help => .error (readHelp .root rest)
    | true, some _ => .error (.refused (.unexpectedArgument argument))
    | _, none => (before.read .root argument).bind fun arguments => readFrom arguments rest

-- Puts the command for rendering before the first argument without a dash, unless that is a command
-- itself.
def insertRun : List String → List String
  | [] => []
  | argument :: rest =>
    if "-".toList.isPrefixOf argument.toList then argument :: insertRun rest
    else if (Verb.ofName? argument).isSome then argument :: rest
    else "run" :: argument :: rest

def read (arguments : List String) : Except Stop Invocation :=
  readFrom {} (insertRun arguments)

end Invocation

end Stencil.CommandLine
