import Stencil.Fallible
import Stencil.ParseError
import Stencil.Text.Blank

set_option autoImplicit false

namespace Stencil

def tagOpening : List Char := ['{', '$']

def tagClosing : List Char := ['$', '}']

def byteLength : List Char → Nat
  | [] => 0
  | c :: rest => c.utf8Size + byteLength rest

inductive TokenKind
  | text
  | tag
  | eof
  deriving DecidableEq, Repr

-- A piece of a source. Texts have their escapes resolved; tags keep their marks.
structure Token where
  kind : TokenKind
  text : List Char
  span : Span
  deriving DecidableEq, Repr

def Token.body (token : Token) : List Char :=
  let inner :=
    if tagOpening.isPrefixOf token.text && tagClosing.isSuffixOf (token.text.drop 2) then
      (token.text.drop 2).dropLast.dropLast
    else token.text
  Text.trim inner

inductive TagScan
  | outside
  | dollar
  | quoted
  | escaped
  | closed
  deriving DecidableEq, Repr

namespace TagScan

def feedOutside (byte : UInt8) : TagScan :=
  if byte = '"'.toUInt8 then quoted
  else if byte = '$'.toUInt8 then dollar
  else outside

def feed : TagScan → UInt8 → TagScan
  | outside, byte => feedOutside byte
  | dollar, byte => if byte = '}'.toUInt8 then closed else feedOutside byte
  | quoted, byte =>
    if byte = '\\'.toUInt8 then escaped
    else if byte = '"'.toUInt8 then outside
    else quoted
  -- A backslash hides one byte, which need not be a whole character.
  | escaped, _ => quoted
  | closed, _ => closed

def feedCharacter (scan : TagScan) (c : Char) : TagScan :=
  (String.utf8EncodeChar c).foldl feed scan

def split? : TagScan → List Char → Option (List Char × List Char)
  | _, [] => none
  | scan, c :: rest =>
    let next := scan.feedCharacter c
    if next = closed then some ([c], rest)
    else (split? next rest).map fun (inner, after) => (c :: inner, after)

theorem split?_append {scan : TagScan} {source inner after : List Char}
    (found : split? scan source = some (inner, after)) : source = inner ++ after := by
  induction source generalizing scan inner with
  | nil => simp [split?] at found
  | cons c rest ih =>
    simp only [split?] at found
    split at found
    · cases found
      rfl
    · obtain ⟨⟨middle, later⟩, tail, same⟩ := Option.map_eq_some_iff.1 found
      cases same
      simp [ih tail]

end TagScan

-- A place in a source: what is still to be read, and how many bytes come before it.
structure Cursor where
  rest : List Char
  offset : Nat
  deriving DecidableEq, Repr

namespace Cursor

def start (source : String) : Cursor :=
  ⟨source.toList, 0⟩

def splitText (fileId : Nat) : Nat → List Char → Except ParseError (List Char × Cursor)
  | offset, [] => .ok ([], ⟨[], offset⟩)
  | offset, ['\\'] => .error ⟨.danglingEscape, ⟨offset, offset + 1⟩, fileId, []⟩
  | offset, '\\' :: c :: rest =>
    if c = '\\' ∨ c = '{' then
      (splitText fileId (offset + 2) rest).map fun (text, after) => (c :: text, after)
    else
      .error ⟨.malformedEscape c, ⟨offset, offset + 1 + c.utf8Size⟩, fileId, []⟩
  | offset, c :: rest =>
    if tagOpening.isPrefixOf (c :: rest) then .ok ([], ⟨c :: rest, offset⟩)
    else
      (splitText fileId (offset + c.utf8Size) rest).map fun (text, after) => (c :: text, after)

/-- A step of a reader, whose place comes back with an error too. -/
abbrev Reading := ExceptT ParseError (StateM Cursor)

def readText (fileId : Nat) : Reading Token := do
  let cursor ← get
  match splitText fileId cursor.offset cursor.rest with
  | .error fault => throw fault
  | .ok (text, after) =>
    set after
    return ⟨.text, text, ⟨cursor.offset, after.offset⟩⟩

def readTag (fileId : Nat) : Reading Token := do
  let cursor ← get
  match TagScan.split? .outside (cursor.rest.drop 2) with
  | none => throw ⟨.unterminatedTag, ⟨cursor.offset, cursor.offset + 2⟩, fileId, []⟩
  | some (inner, after) =>
    let stop := cursor.offset + 2 + byteLength inner
    set (⟨after, stop⟩ : Cursor)
    return ⟨.tag, tagOpening ++ inner, ⟨cursor.offset, stop⟩⟩

def readToken (fileId : Nat) : Reading Token := do
  let cursor ← get
  if cursor.rest.isEmpty then return ⟨.eof, [], ⟨cursor.offset, cursor.offset⟩⟩
  else if tagOpening.isPrefixOf cursor.rest then readTag fileId
  else readText fileId

def next (fileId : Nat) (cursor : Cursor) : Except ParseError Token × Cursor :=
  readToken fileId cursor

theorem next_eq (fileId : Nat) (cursor : Cursor) :
    cursor.next fileId =
      if cursor.rest.isEmpty then (.ok ⟨.eof, [], ⟨cursor.offset, cursor.offset⟩⟩, cursor)
      else if tagOpening.isPrefixOf cursor.rest then readTag fileId cursor
      else readText fileId cursor := by
  change (if cursor.rest.isEmpty then _ else if tagOpening.isPrefixOf cursor.rest then _ else _ :
    Reading Token) cursor = _
  split
  next => rfl
  next => split <;> rfl

theorem readTag_eq (fileId : Nat) (cursor : Cursor) :
    readTag fileId cursor =
      match TagScan.split? .outside (cursor.rest.drop 2) with
      | none => (.error ⟨.unterminatedTag, ⟨cursor.offset, cursor.offset + 2⟩, fileId, []⟩, cursor)
      | some (inner, after) =>
        let stop := cursor.offset + 2 + byteLength inner
        (.ok ⟨.tag, tagOpening ++ inner, ⟨cursor.offset, stop⟩⟩, ⟨after, stop⟩) := by
  change (match TagScan.split? .outside (cursor.rest.drop 2) with
    | none => _
    | some (inner, after) => _ : Reading Token) cursor = _
  cases TagScan.split? .outside (cursor.rest.drop 2) <;> rfl

theorem readText_eq (fileId : Nat) (cursor : Cursor) :
    readText fileId cursor =
      match splitText fileId cursor.offset cursor.rest with
      | .error fault => (.error fault, cursor)
      | .ok (text, after) => (.ok ⟨.text, text, ⟨cursor.offset, after.offset⟩⟩, after) := by
  change (match splitText fileId cursor.offset cursor.rest with
    | .error fault => _
    | .ok (text, after) => _ : Reading Token) cursor = _
  cases splitText fileId cursor.offset cursor.rest <;> rfl

theorem length_splitText_le {fileId offset : Nat} {source text : List Char} {after : Cursor}
    (read : splitText fileId offset source = .ok (text, after)) :
    after.rest.length ≤ source.length := by
  fun_induction splitText fileId offset source generalizing text with
  | case1 | case5 => cases read; simp
  | case2 | case4 => cases read
  | case3 offset c rest plain ih =>
    obtain ⟨⟨tail, later⟩, split, same⟩ := Fallible.map_eq_ok_iff.1 read
    cases same
    have := ih split
    simp only [List.length_cons]
    omega
  | case6 offset c rest _ _ plain ih =>
    obtain ⟨⟨tail, later⟩, split, same⟩ := Fallible.map_eq_ok_iff.1 read
    cases same
    have := ih split
    simp only [List.length_cons]
    omega

theorem length_splitText_lt {fileId offset : Nat} {source text : List Char} {after : Cursor}
    (read : splitText fileId offset source = .ok (text, after)) (more : source ≠ [])
    (plain : ¬ tagOpening.isPrefixOf source = true) : after.rest.length < source.length := by
  unfold splitText at read
  split at read
  next => exact absurd rfl more
  next => cases read
  next offset c rest =>
    split at read
    next =>
      obtain ⟨⟨tail, later⟩, split, same⟩ := Fallible.map_eq_ok_iff.1 read
      cases same
      have := length_splitText_le split
      simp only [List.length_cons]
      omega
    next => cases read
  next offset c rest _ _ =>
    split at read
    next opened => exact absurd opened plain
    next =>
      obtain ⟨⟨tail, later⟩, split, same⟩ := Fallible.map_eq_ok_iff.1 read
      cases same
      have := length_splitText_le split
      simp only [List.length_cons]
      omega

theorem length_next_lt {fileId : Nat} {cursor after : Cursor} {token : Token}
    (read : cursor.next fileId = (.ok token, after)) (more : cursor.rest ≠ []) :
    after.rest.length < cursor.rest.length := by
  rw [next_eq] at read
  split at read
  next empty => exact absurd (List.isEmpty_iff.1 empty) more
  next =>
    split at read
    next =>
      rw [readTag_eq] at read
      split at read
      next => cases read
      next inner later found =>
        cases read
        have := congrArg List.length (TagScan.split?_append found)
        have := List.length_pos_iff.2 more
        simp only [List.length_drop, List.length_append] at *
        omega
    next plain =>
      rw [readText_eq] at read
      split at read
      next => cases read
      next text later split =>
        cases read
        exact length_splitText_lt split more plain

end Cursor

def tokensFrom (fileId : Nat) (cursor : Cursor) : List Token × Option ParseError :=
  if _ : cursor.rest = [] then ([], none)
  else
    match _ : cursor.next fileId with
    | (.error fault, _) => ([], some fault)
    | (.ok token, after) =>
      let (tokens, fault) := tokensFrom fileId after
      (token :: tokens, fault)
termination_by cursor.rest.length
decreasing_by exact Cursor.length_next_lt ‹_› ‹_›

def tokens (fileId : Nat) (source : String) : List Token × Option ParseError :=
  tokensFrom fileId (Cursor.start source)

end Stencil
