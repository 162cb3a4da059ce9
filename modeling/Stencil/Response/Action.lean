import Stencil.Response

set_option autoImplicit false

namespace Stencil.Response

def fresh (emitsHeader : Bool) (refuses : Nat → Bool) (parameters persistent : Scope)
    (cookies : List Cookie) : Response :=
  { sink := { refuses }, configuration := { cookies }, parameters, persistent, emitsHeader }

inductive Content
  | text (content : String)
  | bytes (data : List UInt8)
  deriving DecidableEq, Repr

inductive Setter
  | mimeType (value : String)
  | encoding (label : String)
  | statusCode (value : Nat)
  | statusText (value : String)
  | cookie (value : Cookie)
  deriving DecidableEq, Repr

inductive Change
  | setPersistent (name value : String)
  | removePersistent (name : String)
  | setTemporary (name value : String)
  | removeTemporary (name : String)
  deriving DecidableEq, Repr

inductive Lookup
  | parameter (name : String)
  | persistent (name : String)
  | temporary (name : String)
  deriving DecidableEq, Repr

inductive Action
  | write (content : Content)
  | configure (setter : Setter)
  | change (made : Change)
  | look (lookup : Lookup)
  deriving DecidableEq, Repr

def Content.write : Content → Operation Unit
  | .text content => writeText content
  | .bytes data => writeBytes data

def Setter.apply : Setter → Operation Unit
  | .mimeType value => setMimeType value
  | .encoding label => setEncoding label
  | .statusCode value => setStatusCode value
  | .statusText value => setStatusText value
  | .cookie value => addCookie value

def Change.apply : Change → Response → Response
  | .setPersistent name value => Response.setPersistent name value
  | .removePersistent name => Response.removePersistent name
  | .setTemporary name value => Response.setTemporary name value
  | .removeTemporary name => Response.removeTemporary name

def Lookup.find (response : Response) : Lookup → Option String
  | .parameter name => response.parameters.get? name
  | .persistent name => response.persistent.get? name
  | .temporary name => response.temporary.get? name

def Action.perform (action : Action) (response : Response) :
    Except ResponseError (Option String) × Response :=
  match action with
  | .write content =>
    let (result, after) := content.write response
    (result.map fun _ => none, after)
  | .configure setter =>
    let (result, after) := setter.apply response
    (result.map fun _ => none, after)
  | .change made => (.ok none, made.apply response)
  | .look lookup => (.ok (lookup.find response), response)

-- Does things to a response one after another and collects what they answer.
def series {α β : Type} (perform : α → Response → β × Response) :
    List α → Response → List β × Response
  | [], response => ([], response)
  | first :: rest, response =>
    let (answer, next) := perform first response
    let (answers, last) := series perform rest next
    (answer :: answers, last)

end Stencil.Response
