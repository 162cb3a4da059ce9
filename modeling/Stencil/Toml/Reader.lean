import Stencil.Toml.Scalar
import Stencil.Toml.Section

set_option autoImplicit false

namespace Stencil.Toml

def readItems (readItem : Step Value) : Nat → Step (List Value)
  | 0, _ => .error (.expected "']'")
  | limit + 1, text =>
    match skipLines false text with
    | ']' :: rest => .ok ([], rest)
    | text => do
      let (item, rest) ← readItem text
      match skipLines false rest with
      | ',' :: rest =>
        let (items, rest) ← readItems readItem limit rest
        return (item :: items, rest)
      | ']' :: rest => return ([item], rest)
      | _ => throw (.expected "',' or ']'")

def readPair (readItem : Step Value) : Step (List String × Value) := fun text => do
  let (path, rest) ← readKey text
  match rest with
  | '=' :: rest =>
    let (v, rest) ← readItem (skipGap rest)
    return ((path, v), rest)
  | _ => throw (.expected "'='")

def readPairs (readItem : Step Value) : Nat → Step (List (List String × Value))
  | 0, _ => .error (.expected "a closing brace")
  | limit + 1, text => do
    let (pair, rest) ← readPair readItem text
    match skipGap rest with
    | ',' :: rest =>
      let (pairs, rest) ← readPairs readItem limit rest
      return (pair :: pairs, rest)
    | '}' :: rest => return ([pair], rest)
    | _ => throw (.expected "',' or a closing brace")

def addPair (entries : Section.Entries) (pair : List String × Value) :
    Except Fault Section.Entries :=
  Section.addValue pair.1.dropLast (pair.1.getLast?.getD "") pair.2 entries

def readValue : Nat → Step Value
  | depth, text =>
    match text with
    | '[' :: rest =>
      match depth with
      | 0 => .error .tooDeep
      | depth + 1 =>
        (readItems (readValue depth) (rest.length + 1) rest).map fun (items, rest) =>
          (.array items, rest)
    | '{' :: rest =>
      match depth with
      | 0 => .error .tooDeep
      | depth + 1 =>
        match skipGap rest with
        | '}' :: rest => .ok (.table [], rest)
        | _ => do
          let (pairs, rest) ← readPairs (readValue depth) (rest.length + 1) rest
          let entries ← pairs.foldlM addPair []
          return (.table (Section.toTable entries), rest)
    | '"' :: _ | '\'' :: _ =>
      (readString text).map fun (content, rest) => (.string (String.ofList content), rest)
    | 't' :: 'r' :: 'u' :: 'e' :: rest => .ok (.boolean true, rest)
    | 'f' :: 'a' :: 'l' :: 's' :: 'e' :: rest => .ok (.boolean false, rest)
    | _ => readNumber text

inductive Statement
  | openTable (path : List String)
  | openNext (path : List String)
  | pair (path : List String) (v : Value)

def readHeader (closing : List Char) (text : List Char) :
    Except Fault (List String × List Char) := do
  let (path, rest) ← readKey text
  if closing.isPrefixOf rest then return (path, rest.drop closing.length)
  throw (.expected (String.ofList closing))

def readStatement (text : List Char) : Except Fault (Statement × List Char) := do
  let (statement, rest) ← match text with
    | '[' :: '[' :: rest => do
      let (path, rest) ← readHeader [']', ']'] rest
      pure (Statement.openNext path, rest)
    | '[' :: rest => do
      let (path, rest) ← readHeader [']'] rest
      pure (Statement.openTable path, rest)
    | _ => do
      let ((path, v), rest) ← readPair (readValue depthLimit) text
      pure (Statement.pair path v, rest)
  return (statement, ← finishLine rest)

def readStatements : Nat → List Char → Except Fault (List Statement)
  | 0, _ => .error .tooDeep
  | limit + 1, text =>
    match skipGap text with
    | [] => .ok []
    | c :: rest => do
      if c = '#' ∨ (afterLineEnd? (c :: rest)).isSome then
        readStatements limit (← finishLine (c :: rest))
      else
        let (statement, rest) ← readStatement (c :: rest)
        return statement :: (← readStatements limit rest)

structure Draft where
  entries : Section.Entries := []
  current : List String := []

def Draft.add (draft : Draft) : Statement → Except Fault Draft
  | .openTable path => do
    let entries ← Section.openTable path.dropLast (path.getLast?.getD "") draft.entries
    return ⟨entries, path⟩
  | .openNext path => do
    let entries ← Section.openNext path.dropLast (path.getLast?.getD "") draft.entries
    return ⟨entries, path⟩
  | .pair path v => do
    let entries ← Section.change false (fun _ inner => addPair inner (path, v)) draft.current
      .header draft.entries
    return { draft with entries }

def readTable (text : String) : Except Fault Table := do
  -- A byte order mark in front is skipped.
  let characters := match text.toList with
    | '\ufeff' :: rest => rest
    | characters => characters
  let statements ← readStatements (characters.length + 1) characters
  let draft ← statements.foldlM Draft.add {}
  return Section.toTable draft.entries

end Stencil.Toml
