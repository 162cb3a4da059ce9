set_option autoImplicit false

namespace Stencil.Text

def utf8Bytes (text : List Char) : List UInt8 :=
  text.flatMap String.utf8EncodeChar

def latin1Byte (c : Char) : UInt8 :=
  if c.toNat < 256 then UInt8.ofNat c.toNat else UInt8.ofNat '?'.toNat

def latin1Bytes (text : List Char) : List UInt8 :=
  text.map latin1Byte

inductive Charset
  | utf8
  | latin1
  deriving DecidableEq, Repr

namespace Charset

def ofLabel? (label : String) : Option Charset :=
  let name := label.toList.map Char.toLower
  if name = "utf-8".toList ∨ name = "utf8".toList then some utf8
  else if name = "iso-8859-1".toList ∨ name = "iso8859-1".toList ∨ name = "latin1".toList ∨
      name = "latin-1".toList then some latin1
  else none

def encode : Charset → List Char → List UInt8
  | utf8, text => utf8Bytes text
  | latin1, text => latin1Bytes text

end Charset

end Stencil.Text
