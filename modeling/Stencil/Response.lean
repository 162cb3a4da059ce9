import Stencil.Response.Scope
import Stencil.Response.Sink
import Stencil.Text.Encoding

set_option autoImplicit false

namespace Stencil

structure Cookie where
  name : String
  value : String
  domain : Option String := none
  path : Option String := none
  maxAge : Option Nat := none
  deriving DecidableEq, Repr

def Cookie.headerLine (cookie : Cookie) : String :=
  "Set-Cookie: " ++ cookie.name ++ "=\"" ++ cookie.value ++ "\"" ++
    cookie.domain.elim "" ("; Domain=" ++ ·) ++
    cookie.path.elim "" ("; Path=" ++ ·) ++
    cookie.maxAge.elim "" (fun seconds => "; Max-Age=" ++ toString seconds) ++ "\r\n"

structure Configuration where
  charset : Text.Charset := .utf8
  encoding : String := "UTF-8"
  statusCode : Nat := 200
  statusText : String := "OK"
  mimeType : String := "text/html"
  cookies : List Cookie := []
  deriving DecidableEq, Repr

def Configuration.charsetNote (configuration : Configuration) : String :=
  if "text/".toList.isPrefixOf configuration.mimeType.toList then
    "; charset=" ++ configuration.encoding
  else ""

def Configuration.header (configuration : Configuration) : String :=
  "HTTP/1.1 " ++ toString configuration.statusCode ++ " " ++ configuration.statusText ++ "\r\n" ++
    "Content-Type: " ++ configuration.mimeType ++ configuration.charsetNote ++ "\r\n" ++
    String.join (configuration.cookies.map Cookie.headerLine) ++ "\r\n"

def Configuration.headerBytes (configuration : Configuration) : List UInt8 :=
  Text.latin1Bytes configuration.header.toList

structure Response where
  sink : Sink := {}
  configuration : Configuration := {}
  -- The parameters of the request; nothing changes them.
  parameters : Scope := {}
  persistent : Scope := {}
  temporary : Scope := {}
  headerGenerated : Bool := false
  emitsHeader : Bool := true

namespace Response

def setPersistent (name value : String) (response : Response) : Response :=
  { response with persistent := response.persistent.set name value }

def removePersistent (name : String) (response : Response) : Response :=
  { response with persistent := response.persistent.remove name }

def setTemporary (name value : String) (response : Response) : Response :=
  { response with temporary := response.temporary.set name value }

def removeTemporary (name : String) (response : Response) : Response :=
  { response with temporary := response.temporary.remove name }

/-- An operation that may fail; it may have changed the response even then. -/
abbrev Operation := ExceptT ResponseError (StateM Response)

def send (data : List UInt8) : Operation Unit := fun response =>
  let (result, sink) := response.sink.write data
  (result, { response with sink })

def generateHeader : Operation Unit := do
  let response ← get
  if response.emitsHeader then send response.configuration.headerBytes
  modify fun response => { response with headerGenerated := true }

def ensureHeader : Operation Unit := do
  if !(← get).headerGenerated then generateHeader

def writeBytes (data : List UInt8) : Operation Unit := do
  ensureHeader
  send data

def writeText (text : String) : Operation Unit := do
  ensureHeader
  send ((← get).configuration.charset.encode text.toList)

def configure (change : Configuration → Except ResponseError Configuration) : Operation Unit := do
  let response ← get
  if response.headerGenerated then throw .headerAlreadyGenerated
  match change response.configuration with
  | .ok configuration => set { response with configuration }
  | .error fault => throw fault

def setMimeType (mimeType : String) : Operation Unit :=
  configure fun configuration => .ok { configuration with mimeType }

def setEncoding (label : String) : Operation Unit :=
  configure fun configuration =>
    match Text.Charset.ofLabel? label with
    | some charset => .ok { configuration with charset, encoding := label }
    | none => .error (.unsupportedEncoding label)

def setStatusCode (statusCode : Nat) : Operation Unit :=
  configure fun configuration => .ok { configuration with statusCode }

def setStatusText (statusText : String) : Operation Unit :=
  configure fun configuration => .ok { configuration with statusText }

def addCookie (cookie : Cookie) : Operation Unit :=
  configure fun configuration =>
    .ok { configuration with cookies := configuration.cookies ++ [cookie] }

end Response

end Stencil
