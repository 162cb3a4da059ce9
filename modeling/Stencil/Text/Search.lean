set_option autoImplicit false

namespace Stencil.Text

def containsText (part : List Char) : List Char → Bool
  | [] => part.isEmpty
  | c :: rest => part.isPrefixOf (c :: rest) || containsText part rest

def splitAt? (part : List Char) : List Char → Option (List Char × List Char)
  | [] => if part.isEmpty then some ([], []) else none
  | c :: rest =>
    if part.isPrefixOf (c :: rest) then some ([], (c :: rest).drop part.length)
    else (splitAt? part rest).map fun (before, after) => (c :: before, after)

def dropReturn (line : List Char) : List Char :=
  if line.getLast? = some '\r' then line.dropLast else line

def linesFrom : List Char → List Char → List (List Char)
  | pending, [] => if pending.isEmpty then [] else [pending.reverse]
  | pending, c :: rest =>
    if c = '\n' then dropReturn pending.reverse :: linesFrom [] rest
    else linesFrom (c :: pending) rest

-- The lines of a text, without their ends. A line end at the end of the text starts no line.
def lines (text : List Char) : List (List Char) :=
  linesFrom [] text

def trimEnd (part : List Char) (text : List Char) : List Char :=
  if _ : part ≠ [] ∧ part.isSuffixOf text ∧ text ≠ [] then
    trimEnd part (text.take (text.length - part.length))
  else text
termination_by text.length
decreasing_by
  rename_i present
  have := List.length_pos_iff.2 present.1
  have := List.length_pos_iff.2 present.2.2
  simp only [List.length_take]
  omega

end Stencil.Text
