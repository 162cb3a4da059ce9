import Stencil.Text.Encoding
import Stencil.Text.Lossy

set_option autoImplicit false

namespace Stencil

/-- The name of a file or a folder: bytes, which need not be a text. -/
abbrev FileName := List UInt8

namespace FileName

def ofText (text : String) : FileName :=
  Text.utf8Bytes text.toList

def text? (name : FileName) : Option String :=
  String.fromUTF8? name.toByteArray

def shown (name : FileName) : String :=
  String.ofList (Text.lossy name)

end FileName

inductive FileTree
  | file (data : List UInt8)
  | folder (entries : List (FileName × FileTree))
  deriving Inhabited

inductive ReadError
  | missing
  | isFolder
  | notFolder
  | invalidText
  | other (message : String)
  deriving DecidableEq, Repr

def ReadError.message : ReadError → String
  | missing => "No such file or directory (os error 2)"
  | isFolder => "Is a directory (os error 21)"
  | notFolder => "Not a directory (os error 20)"
  | invalidText => "stream did not contain valid UTF-8"
  | other message => message

abbrev Disk := String → Except ReadError FileTree

namespace FileTree

def text : FileTree → Except ReadError String
  | folder _ => .error .isFolder
  | file data => (String.fromUTF8? data.toByteArray).elim (.error .invalidText) .ok

def entry? (name : FileName) : FileTree → Except ReadError FileTree
  | file _ => .error .notFolder
  | folder entries => (entries.lookup name).elim (.error .missing) .ok

-- Follows the parts of a path from a folder whose ancestors are given, nearest first. An empty
-- part, as after a slash at the end, asks for a folder.
def follow : List String → List FileTree → FileTree → Except ReadError FileTree
  | [], _, here => .ok here
  | part :: rest, above, here =>
    match here with
    | file _ => .error .notFolder
    | folder _ =>
      if part = "" ∨ part = "." then follow rest above here
      else if part = ".." then
        match above with
        | [] => .error .missing
        | parent :: above => follow rest above parent
      else (here.entry? (.ofText part)).bind fun found => follow rest (here :: above) found

def find (tree : FileTree) (path : String) : Except ReadError FileTree :=
  if path = "" ∨ path.startsWith "/" then .error .missing
  else follow (path.splitOn "/") [] tree

def insert (data : List UInt8) : List FileName → FileTree → FileTree
  | [], _ => file data
  | part :: rest, tree =>
    let entries := match tree with
      | folder entries => entries
      | file _ => []
    let below := (entries.lookup part).getD (folder [])
    folder ((part, insert data rest below) :: entries.filter fun entry => entry.1 ≠ part)

end FileTree

end Stencil
