import Stencil.CommandLine.Setting

set_option autoImplicit false

namespace Stencil.CommandLine

inductive Shape
  | escape
  | long (name : String) (value : Option String)
  | letters (content : List Char)
  | plain
  deriving DecidableEq, Repr

def Shape.of (argument : String) : Shape :=
  match argument.toList with
  | ['-', '-'] => .escape
  | '-' :: '-' :: rest =>
    let name := String.ofList (rest.takeWhile (· != '='))
    match rest.dropWhile (· != '=') with
    | [] => .long name none
    | _ :: value => .long name (some (String.ofList value))
  | '-' :: c :: rest => .letters (c :: rest)
  | _ => .plain

inductive Stop
  | refused (e : UsageError)
  | bare
  | help (level : Level)
  | version
  deriving DecidableEq, Repr

structure Arguments where
  given : List (Setting × String) := []
  -- A value in an argument of its own is looked at only when the next setting or the operand comes,
  -- so an unknown argument after it is reported first.
  pending : Option (Setting × Option String) := none
  operand : Option String := none
  escaped : Bool := false
  deriving DecidableEq, Repr

namespace Arguments

def has (setting : Setting) (arguments : Arguments) : Bool :=
  arguments.given.any fun entry => entry.1 = setting

def values (setting : Setting) (arguments : Arguments) : List String :=
  (arguments.given.filter fun entry => entry.1 = setting).map Prod.snd

def pairs (setting : Setting) (arguments : Arguments) : List (String × String) :=
  (arguments.values setting).filterMap fun value => (readPair value).toOption

def record (setting : Setting) (value : String) (arguments : Arguments) : Except Stop Arguments :=
  let recorded := { arguments with given := arguments.given ++ [(setting, value)] }
  if !setting.repeats && arguments.has setting then .error (.refused (.repeated setting))
  else if setting.takesPair then
    match readPair value with
    | .ok _ => .ok recorded
    | .error fault => .error (.refused (.invalidPair setting value fault))
  else .ok recorded

def settle (arguments : Arguments) : Except Stop Arguments :=
  match arguments.pending with
  | none => .ok arguments
  | some (setting, none) => .error (.refused (.missingValue setting))
  | some (setting, some value) => { arguments with pending := none }.record setting value

def give (level : Level) (setting : Setting) (value : String) (arguments : Arguments) :
    Except Stop Arguments :=
  arguments.settle.bind fun settled =>
    match setting with
    | .help => .error (.help level)
    | .version => .error .version
    | _ => settled.record setting value

def await (setting : Setting) (arguments : Arguments) : Except Stop Arguments :=
  arguments.settle.map fun settled => { settled with pending := some (setting, none) }

def readLong (level : Level) (name : String) (value : Option String) (arguments : Arguments) :
    Except Stop Arguments :=
  match level.settingOfName? name with
  | none => .error (.refused (.unexpectedArgument ("--" ++ name)))
  | some setting =>
    match value with
    | none =>
      if setting.takesValue then arguments.await setting else arguments.give level setting ""
    | some value =>
      if setting.takesValue then arguments.give level setting value
      else .error (.refused (.unneededValue setting value))

def readLetters (level : Level) : List Char → Arguments → Except Stop Arguments
  | [], arguments => .ok arguments
  | c :: rest, arguments =>
    match level.settingOfLetter? c with
    | none => .error (.refused (.unexpectedArgument (String.ofList ['-', c])))
    | some setting =>
      if setting.takesValue then
        -- All that follows is the value, with or without an equals sign before it.
        match rest with
        | [] => arguments.await setting
        | '=' :: value => arguments.give level setting (String.ofList value)
        | value => arguments.give level setting (String.ofList value)
      else (arguments.give level setting "").bind (readLetters level rest)

def readOperand (level : Level) (argument : String) (arguments : Arguments) :
    Except Stop Arguments :=
  -- A command has one operand; before the command there is none.
  match level, arguments.operand with
  | .root, _ => .error (.refused (.unknownCommand argument))
  | _, some _ => .error (.refused (.unexpectedArgument argument))
  | _, none => arguments.settle.map fun settled => { settled with operand := some argument }

def read (level : Level) (arguments : Arguments) (argument : String) : Except Stop Arguments :=
  if arguments.escaped then arguments.readOperand level argument
  else
    match Shape.of argument, arguments.pending with
    | .escape, _ => .ok { arguments with escaped := true }
    | .long name value, _ => arguments.readLong level name value
    | .letters content, _ => readLetters level content arguments
    | .plain, some (setting, none) =>
      .ok { arguments with pending := some (setting, some argument) }
    | .plain, _ => arguments.readOperand level argument

def readAll (level : Level) (arguments : List String) : Except Stop Arguments :=
  (arguments.foldlM (read level) {}).bind settle

end Arguments

end Stencil.CommandLine
