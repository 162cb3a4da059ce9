import Stencil.Diagnostic

set_option autoImplicit false

namespace Stencil

structure Source where
  name : String
  content : List Char

namespace Source

def cut : List Char → Nat → List Char × List Char
  | [], _ => ([], [])
  | c :: rest, offset =>
    if offset = 0 then ([], c :: rest)
    else
      let (before, after) := cut rest (offset - c.utf8Size)
      (c :: before, after)

def lineNumber (before : List Char) : Nat :=
  before.count '\n' + 1

def lastLine (before : List Char) : List Char :=
  (before.reverse.takeWhile (· != '\n')).reverse

def firstLine (after : List Char) : List Char :=
  after.takeWhile (· != '\n')

def trimLine (line : List Char) : List Char :=
  (line.reverse.dropWhile fun c => c == '\r' || c == '\x00').reverse

end Source

namespace Report

-- How many columns a character takes that starts in a column. Tabs go on to the next multiple of
-- four.
def width (column : Nat) (c : Char) : Nat :=
  if c = '\t' then 4 - column % 4 else 1

def expand : Nat → List Char → List Char
  | _, [] => []
  | column, c :: rest =>
    let shown := if c = '\t' then List.replicate (width column c) ' ' else [c]
    shown ++ expand (column + width column c) rest

def columnAfter (column : Nat) (text : List Char) : Nat :=
  text.foldl (fun column c => column + width column c) column

def underline (unmarked marked : List Char) : List Char :=
  let start := columnAfter 0 unmarked
  List.replicate start ' ' ++ List.replicate (max 1 (columnAfter start marked - start)) '^'

def noteLines (margin : List Char) (notes : List String) : List (List Char) :=
  if notes.isEmpty then []
  else (margin ++ " │".toList) :: notes.map fun note => margin ++ " = ".toList ++ note.toList

def labelLines (source : Source) (notes : List String) (label : Label) : List (List Char) :=
  let (before, after) := Source.cut source.content label.range.start
  -- Of a mark that goes on beyond its first line, only that line is shown.
  let (marked, _) := Source.cut after (label.range.stop - label.range.start)
  let line := Source.lastLine before
  let number := toString (Source.lineNumber before)
  let margin := List.replicate number.length ' '
  let place := source.name ++ ":" ++ number ++ ":" ++ toString (line.length + 1)
  [margin ++ " ┌─ ".toList ++ place.toList,
    margin ++ " │".toList,
    number.toList ++ " │ ".toList ++ expand 0 (Source.trimLine (line ++ Source.firstLine after)),
    margin ++ " │ ".toList ++ underline line (Source.firstLine marked)] ++
    noteLines margin notes

def severityName : Severity → String
  | .error => "error"
  | .warning => "warning"

end Report

def Diagnostic.report (diagnostic : Diagnostic) (source : Source) : String :=
  let heading := Report.severityName diagnostic.severity ++ ": " ++ diagnostic.message
  let body := diagnostic.labels.flatMap (Report.labelLines source diagnostic.notes)
  String.ofList ((heading.toList :: body ++ [[]]).flatMap (· ++ ['\n']))

end Stencil
