import Stencil.Document
import Stencil.Token

set_option autoImplicit false

namespace Stencil

def escapeCharacter : Char → List Char
  | '\\' => ['\\', '\\']
  | '{' => ['\\', '{']
  | c => [c]

def escapeText (text : List Char) : List Char :=
  text.flatMap escapeCharacter

def elementsSource (elements : List Element) : List Char :=
  elements.flatMap fun element => ' ' :: element.source

def LoopHead.source (head : LoopHead) : List Char :=
  tagOpening ++ " FOR ".toList ++ head.variableName.toList ++
    elementsSource ([head.start, head.stop] ++ head.step.toList) ++ ' ' :: tagClosing

def loopEnd : List Char :=
  tagOpening ++ "END".toList ++ tagClosing

mutual

def Node.source : Node → List Char
  | .text content => escapeText content.toList
  | .output elements => tagOpening ++ '=' :: elementsSource elements ++ ' ' :: tagClosing
  | .loop head children => head.source ++ Node.sourceOfAll children ++ loopEnd

def Node.sourceOfAll : List Node → List Char
  | [] => []
  | node :: rest => node.source ++ Node.sourceOfAll rest

end

def Document.source (document : Document) : String :=
  String.ofList (Node.sourceOfAll document.children)

end Stencil
