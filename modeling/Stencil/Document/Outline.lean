import Stencil.Document
import Stencil.Text.Visible

set_option autoImplicit false

namespace Stencil

inductive Outline
  | word (text : List Char)
  | group (opening closing : List Char) (entries : List (List Char × Outline))

namespace Outline

def list (items : List Outline) : Outline :=
  group ['['] [']'] (items.map fun item => ([], item))

def wrapped (name : String) (content : Outline) : Outline :=
  group (name.toList ++ ['(']) [')'] [([], content)]

def record (name : String) (fields : List (String × Outline)) : Outline :=
  group (name.toList ++ [' ', '\x7b']) ['\x7d']
    (fields.map fun (field, content) => (field.toList ++ [':', ' '], content))

def text (content : String) : Outline :=
  word (Text.visible content)

def indent (line : List Char) : List Char :=
  List.replicate 4 ' ' ++ line

def closeEntry : List (List Char) → List (List Char)
  | [] => []
  | [last] => [indent (last ++ [','])]
  | line :: rest => indent line :: closeEntry rest

def label (name : List Char) : List (List Char) → List (List Char)
  | [] => []
  | line :: rest => (name ++ line) :: rest

mutual

def lines : Outline → List (List Char)
  | .word content => [content]
  | .group opening closing entries =>
    match entryLines entries with
    | [] => [opening ++ closing]
    | inner => opening :: inner ++ [closing]

def entryLines : List (List Char × Outline) → List (List Char)
  | [] => []
  | (name, content) :: rest => closeEntry (label name content.lines) ++ entryLines rest

end

def render (outline : Outline) : String :=
  String.ofList (outline.lines.flatMap (· ++ ['\n']))

end Outline

def Element.outline : Element → Outline
  | var name => .wrapped "Variable" (.text name)
  | call name => .wrapped "Function" (.text name)
  | operator op => .wrapped "Operator" (.word op.name.toList)
  | text content => .wrapped "String" (.text content)
  | integer n => .wrapped "Integer" (.word (Number.integerText n.toInt))
  | double x => .wrapped "Double" (.word (Number.doubleText .constant x))

def LoopHead.outlineFields (head : LoopHead) : List (String × Outline) :=
  let step := head.step.elim (.word "None".toList) fun step => .wrapped "Some" step.outline
  [("variable", .text head.variableName), ("start", head.start.outline),
    ("end", head.stop.outline), ("step", step)]

mutual

def Node.outline : Node → Outline
  | .text content => .wrapped "Text" (.text content)
  | .output elements => .wrapped "Output" (.list (elements.map Element.outline))
  | .loop head children =>
    .wrapped "Loop"
      (.record "LoopNode" (head.outlineFields ++ [("children", .list (Node.outlineAll children))]))

def Node.outlineAll : List Node → List Outline
  | [] => []
  | node :: rest => node.outline :: Node.outlineAll rest

end

def Document.outline (document : Document) : Outline :=
  .record "DocumentNode" [("children", .list (Node.outlineAll document.children))]

end Stencil
