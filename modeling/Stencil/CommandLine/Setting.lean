import Stencil.Parameters

set_option autoImplicit false

namespace Stencil.CommandLine

inductive Level
  | root
  | run
  | test
  deriving DecidableEq, Repr

inductive Setting
  | help
  | version
  | noColor
  -- Asks for a log. Nothing is logged, so it changes nothing.
  | verbose
  | param
  | persistent
  | parameterFile
  | headers
  | check
  | tree
  | ast
  | quiet
  | category
  | listCategories
  deriving DecidableEq, Repr

namespace Setting

def longName : Setting → String
  | help => "help"
  | version => "version"
  | noColor => "no-color"
  | verbose => "verbose"
  | param => "param"
  | persistent => "persistent"
  | parameterFile => "params"
  | headers => "headers"
  | check => "check"
  | tree => "tree"
  | ast => "ast"
  | quiet => "quiet"
  | category => "category"
  | listCategories => "list-categories"

def letter? : Setting → Option Char
  | help => some 'h'
  | version => some 'V'
  | verbose => some 'v'
  | param => some 'p'
  | quiet => some 'q'
  | category => some 'c'
  | _ => none

def valueName? : Setting → Option String
  | param => some "PARAMS"
  | persistent => some "PERSISTENT"
  | parameterFile => some "PARAMS_FILE"
  | category => some "CATEGORY"
  | _ => none

def takesValue (setting : Setting) : Bool :=
  setting.valueName?.isSome

def takesPair : Setting → Bool
  | param | persistent => true
  | _ => false

def repeats : Setting → Bool
  | verbose | param | persistent | category => true
  | _ => false

def display (setting : Setting) : String :=
  let ending := match setting.valueName? with
    | some name => " <" ++ name ++ ">"
    | none => if setting.repeats then "..." else ""
  "--" ++ setting.longName ++ ending

end Setting

def Level.settings : Level → List Setting
  | root => [.noColor, .verbose, .help, .version]
  | run =>
    [.param, .persistent, .parameterFile, .headers, .check, .tree, .ast, .quiet, .noColor,
      .verbose, .help]
  | test => [.category, .listCategories, .noColor, .verbose, .help]

def Level.settingOfName? (level : Level) (name : String) : Option Setting :=
  level.settings.find? fun setting => setting.longName = name

def Level.settingOfLetter? (level : Level) (letter : Char) : Option Setting :=
  level.settings.find? fun setting => setting.letter? = some letter

inductive UsageError
  | unexpectedArgument (argument : String)
  | missingValue (setting : Setting)
  | invalidPair (setting : Setting) (value : String) (fault : PairError)
  | repeated (setting : Setting)
  | unneededValue (setting : Setting) (value : String)
  | missingOperand
  | missingCommand
  | unknownCommand (name : String)
  deriving DecidableEq, Repr

def UsageError.message : UsageError → String
  | unexpectedArgument argument => "unexpected argument '" ++ argument ++ "' found"
  | missingValue setting =>
    "a value is required for '" ++ setting.display ++ "' but none was supplied"
  | invalidPair setting value fault =>
    "invalid value '" ++ value ++ "' for '" ++ setting.display ++ "': " ++ fault.message
  | repeated setting => "the argument '" ++ setting.display ++ "' cannot be used multiple times"
  | unneededValue setting value =>
    "unexpected value '" ++ value ++ "' for '" ++ setting.display ++
      "' found; no more were expected"
  | missingOperand => "the following required arguments were not provided:"
  | missingCommand => "'smscr' requires a subcommand but one was not provided"
  | unknownCommand name => "unrecognized subcommand '" ++ name ++ "'"

end Stencil.CommandLine
