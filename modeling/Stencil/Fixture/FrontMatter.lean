import Stencil.Parameters
import Stencil.Text.Search

set_option autoImplicit false

namespace Stencil

inductive ExpectedParseError
  | any (wanted : Bool)
  | containing (part : String)
  deriving DecidableEq, Repr

structure FrontMatter where
  description : Option String := none
  params : Toml.Table := []
  persistent : Toml.Table := []
  expectOutput : Option String := none
  expectError : Option String := none
  expectParseError : Option ExpectedParseError := none
  expectPersistent : Option Toml.Table := none

inductive FrontMatterError
  | noOpening
  | noClosing
  | toml (fault : Toml.Fault)
  deriving DecidableEq, Repr

def FrontMatterError.message : FrontMatterError → String
  | noOpening => "missing opening --- frontmatter delimiter"
  | noClosing => "missing closing --- frontmatter delimiter"
  | toml fault => "TOML parse error: " ++ fault.message

namespace FrontMatter

def dashes : List Char := ['-', '-', '-']

def skipLineEnd : List Char → List Char
  | '\n' :: rest => rest
  | '\r' :: '\n' :: rest => rest
  | text => text

def dropReturns (text : List Char) : List Char :=
  (text.reverse.dropWhile (· == '\r')).reverse

def split (content : List Char) : Except FrontMatterError (List Char × List Char) :=
  let text := content.dropWhile (· == '\ufeff')
  if dashes.isPrefixOf text then
    match Text.splitAt? ('\n' :: dashes) (skipLineEnd (text.drop 3)) with
    | some (toml, script) => .ok (dropReturns toml, skipLineEnd script)
    | none => .error .noClosing
  else .error .noOpening

def readExpectedParseError (table : Toml.Table) :
    Except Toml.Fault (Option ExpectedParseError) :=
  let key := "expect_parse_error"
  match table.lookup key with
  | none => .ok none
  | some (.boolean wanted) => .ok (some (.any wanted))
  | some (.string part) => .ok (some (.containing part))
  | some _ => .error (.wrongType key "a boolean or a string")

def ofTable (table : Toml.Table) : Except Toml.Fault FrontMatter := do
  let description ← table.string? "description"
  let params ← table.table? "params"
  let persistent ← table.table? "persistent"
  let expectOutput ← table.string? "expect_output"
  let expectError ← table.string? "expect_error"
  let expectParseError ← readExpectedParseError table
  let expectPersistent ← table.table? "expect_persistent"
  return {
    description, expectOutput, expectError, expectParseError, expectPersistent
    params := params.getD []
    persistent := persistent.getD [] }

def read (content : String) : Except FrontMatterError (FrontMatter × String) := do
  let (toml, script) ← split content.toList
  let table ← (Toml.readTable (String.ofList toml)).mapError .toml
  let frontMatter ← (ofTable table).mapError .toml
  return (frontMatter, String.ofList script)

end FrontMatter

end Stencil
