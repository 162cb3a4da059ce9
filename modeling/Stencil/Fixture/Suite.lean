import Stencil.FileTree
import Stencil.Fixture.Check

set_option autoImplicit false

namespace Stencil

structure Fixture where
  category : String
  -- The folders it is in, from the root of the suite on, and its name.
  path : List FileName
  name : String
  file : FileTree

namespace Fixture

def extension : String := ".test.smscr"

def fixtureName? (name : FileName) : Option String :=
  name.text?.filter fun text => extension.toList.isSuffixOf text.toList

def showPath (path : List FileName) : String :=
  "/".intercalate (path.map FileName.shown)

def categoryOf (folders : List FileName) : String :=
  String.ofList ((showPath folders).toList.map fun c => if c = '\\' then '/' else c)

mutual

def inEntries (path : List FileName) : List (FileName × FileTree) → List Fixture
  | [] => []
  | (name, tree) :: rest => inTree path name tree ++ inEntries path rest

def inTree (path : List FileName) (name : FileName) : FileTree → List Fixture
  | .folder entries => inEntries (path ++ [name]) entries
  | .file data =>
    match fixtureName? name with
    | some text => [⟨categoryOf path, path ++ [name], text, .file data⟩]
    | none => []

end

def precedes (a b : Fixture) : Bool :=
  a.category < b.category ||
    (a.category == b.category && !b.path.lex a.path fun x y => x < y)

def discover (rootName : String) : FileTree → List Fixture
  -- A root that is a file is a fixture whatever its name.
  | .file data => [⟨"", [], rootName, .file data⟩]
  | .folder entries => (inEntries [] entries).mergeSort precedes

def categoryLabel (category : String) : String :=
  if category = "" then "(root)" else category

def trimSlashes (request : String) : List Char :=
  ((request.toList.dropWhile (· == '/')).reverse.dropWhile (· == '/')).reverse

def isRequested (category request : String) : Bool :=
  let requested := trimSlashes request
  category.toList = requested || (requested ++ ['/']).isPrefixOf category.toList

def select (requests : List String) (fixtures : List Fixture) : List Fixture :=
  fixtures.filter fun fixture => requests.isEmpty || requests.any (isRequested fixture.category)

def grouped : List Fixture → List (String × List Fixture)
  | [] => []
  | fixture :: rest =>
    match grouped rest with
    | (category, fixtures) :: groups =>
      if category = fixture.category then (category, fixture :: fixtures) :: groups
      else (fixture.category, [fixture]) :: (category, fixtures) :: groups
    | [] => [(fixture.category, [fixture])]

structure Verdict where
  fixture : Fixture
  description : Option String := none
  failure : Option String := none

def runWithin (limit : Nat) (fixture : Fixture) : Option Verdict :=
  match fixture.file.text with
  | .error e => some ⟨fixture, none, some ("cannot read file: " ++ e.message)⟩
  | .ok content =>
    match FrontMatter.read content with
    | .error e => some ⟨fixture, none, some ("frontmatter error: " ++ e.message)⟩
    | .ok (expected, source) =>
      (expected.checkWithin limit source).map fun mismatch =>
        ⟨fixture, expected.description, mismatch.map Mismatch.message⟩

/-- The verdicts on fixtures, category by category; none at all if one of them does not end. -/
def runAllWithin (limit : Nat) (groups : List (String × List Fixture)) :
    Option (List (String × List Verdict)) :=
  groups.mapM fun (category, fixtures) =>
    (fixtures.mapM (runWithin limit)).map fun verdicts => (category, verdicts)

def Verdict.passed (verdict : Verdict) : Bool :=
  verdict.failure.isNone

def Verdict.label (verdict : Verdict) : String :=
  verdict.description.getD
    (String.ofList (Text.trimEnd extension.toList verdict.fixture.name.toList))

def displayPath (root : String) (fixture : Fixture) : String :=
  if fixture.path.isEmpty then root
  else
    let slash := if root.endsWith "/" then "" else "/"
    root ++ slash ++ showPath fixture.path

end Fixture

structure SuiteReport where
  lines : List String
  exitCode : Nat
  deriving DecidableEq, Repr

namespace SuiteReport

open Fixture (Verdict)

def paint (color : Bool) (rendition text : String) : String :=
  if color then "\x1b[" ++ rendition ++ "m" ++ text ++ "\x1b[0m" else text

def verdictLine (color : Bool) (verdict : Verdict) : String :=
  let word := if verdict.passed then paint color "32" "PASS" else paint color "31" "FAIL"
  "  " ++ word ++ "  " ++ verdict.label

def groupLines (color : Bool) (group : String × List Verdict) : List String :=
  "" :: paint color "1" (Fixture.categoryLabel group.1) :: group.2.map (verdictLine color)

def failureLines (root : String) (verdict : Verdict) : List String :=
  let reason := (verdict.failure.getD "").toList
  "" :: ("  --- " ++ verdict.fixture.displayPath root ++ " ---") ::
    (Text.lines reason).map fun line => "  " ++ String.ofList line

def summaryLine (color : Bool) (passed failed : Nat) : String :=
  if failed = 0 then
    "test result: " ++ paint color "32" "ok" ++ ". " ++ toString passed ++ " passed, 0 failed"
  else
    "test result: " ++ paint color "31" "FAILED" ++ ". " ++ toString passed ++ " passed, " ++
      toString failed ++ " failed (of " ++ toString (passed + failed) ++ ")"

def ofVerdicts (color : Bool) (root : String) (groups : List (String × List Verdict)) :
    SuiteReport :=
  let verdicts := groups.flatMap Prod.snd
  let failures := verdicts.filter fun verdict => !verdict.passed
  let passed := (verdicts.filter Verdict.passed).length
  let failureSection :=
    if failures.isEmpty then [] else "" :: "failures:" :: failures.flatMap (failureLines root)
  { lines := groups.flatMap (groupLines color) ++ failureSection ++
      ["", summaryLine color passed failures.length]
    exitCode := if failures.isEmpty then 0 else 1 }

def noFixtures (root : String) : String :=
  "no " ++ Fixture.extension ++ " files found in " ++ root

def categories (fixtures : List Fixture) : List String :=
  (Fixture.grouped fixtures).map Prod.fst

def warning? (available : List String) (request : String) : Option String :=
  if available.any (Fixture.isRequested · request) then none
  else
    some ("warning: category '" ++ request ++ "' not found (available: " ++
      ", ".intercalate (available.map Fixture.categoryLabel) ++ ")")

def isFile : Except ReadError FileTree → Bool
  | .ok (.file _) => true
  | _ => false

def lastPart (path : String) : String :=
  ((path.splitOn "/").filter fun part => part ≠ "" ∧ part ≠ ".").getLast?.getD "?"

-- The fixtures under a path; there are none where nothing can be read.
def fixturesAt (path : String) : Except ReadError FileTree → List Fixture
  | .ok tree => Fixture.discover (lastPart path) tree
  | .error _ => []

/-- The report on the fixtures under a path; there is none if a script does not end. -/
def runWithin (limit : Nat) (color : Bool) (path : String) (requests : List String)
    (found : Except ReadError FileTree) : Option SuiteReport :=
  let fixtures := fixturesAt path found
  if fixtures.isEmpty then some ⟨[noFixtures path], 1⟩
  else
    -- A file is run whatever is requested.
    let requests := if isFile found then [] else requests
    let warnings := requests.filterMap (warning? (categories fixtures))
    let selected := Fixture.select requests fixtures
    if selected.isEmpty then some ⟨warnings ++ ["no matching categories found"], 1⟩
    else
      (Fixture.runAllWithin limit (Fixture.grouped selected)).map fun groups =>
        let report := ofVerdicts color path groups
        { report with lines := warnings ++ report.lines }

def list (path : String) (found : Except ReadError FileTree) : SuiteReport :=
  let fixtures := fixturesAt path found
  if isFile found then ⟨["(single file, no categories)"], 0⟩
  else if fixtures.isEmpty then ⟨[noFixtures path], 0⟩
  else
    let entries := (Fixture.grouped fixtures).map fun (category, group) =>
      "  " ++ Fixture.categoryLabel category ++ " (" ++ toString group.length ++ " tests)"
    ⟨"available categories:" :: entries, 0⟩

end SuiteReport

end Stencil
