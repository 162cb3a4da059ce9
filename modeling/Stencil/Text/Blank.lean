import Stencil.Text.Ranges

set_option autoImplicit false

namespace Stencil.Text

-- Characters with the property White_Space, in ascending ranges.
def blankRanges : Ranges :=
  [(0x9, 0xd), (0x20, 0x20), (0x85, 0x85), (0xa0, 0xa0), (0x1680, 0x1680), (0x2000, 0x200a),
   (0x2028, 0x2029), (0x202f, 0x202f), (0x205f, 0x205f), (0x3000, 0x3000)]

def isBlank (c : Char) : Bool :=
  blankRanges.holds c.toNat

def trimLeft (text : List Char) : List Char :=
  text.dropWhile isBlank

def trimRight (text : List Char) : List Char :=
  (text.reverse.dropWhile isBlank).reverse

def trim (text : List Char) : List Char :=
  trimRight (trimLeft text)

def wordsFrom : List Char → List Char → List (List Char)
  | pending, [] => if pending.isEmpty then [] else [pending.reverse]
  | pending, c :: rest =>
    if isBlank c then
      if pending.isEmpty then wordsFrom [] rest else pending.reverse :: wordsFrom [] rest
    else
      wordsFrom (c :: pending) rest

def words (text : List Char) : List (List Char) :=
  wordsFrom [] text

end Stencil.Text
