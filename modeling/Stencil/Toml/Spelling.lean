import Stencil.Number.Layout
import Stencil.Toml.Quoted

set_option autoImplicit false

namespace Stencil.Toml

open Number (natText integerText)

def floatStyle : Number.DoubleStyle :=
  ⟨-400, 400, 'e', false, "inf".toList⟩

def floatText (x : Float) : List Char :=
  if x.isNaN then "nan".toList else Number.doubleText floatStyle x

def padded (width n : Nat) : List Char :=
  List.replicate (width - (natText n).length) '0' ++ natText n

def Date.spelling (date : Date) : List Char :=
  padded 4 date.year ++ '-' :: padded 2 date.month ++ '-' :: padded 2 date.day

def Time.spelling (time : Time) : List Char :=
  padded 2 time.hour ++ ':' :: padded 2 time.minute ++ ':' :: padded 2 time.second ++
    if time.nanosecond = 0 then []
    else '.' :: ((padded 9 time.nanosecond).reverse.dropWhile (· == '0')).reverse

def Offset.spelling : Offset → List Char
  | .utc => ['Z']
  | .minutes n =>
    (if n < 0 then '-' else '+') :: padded 2 (n.natAbs / 60) ++ ':' :: padded 2 (n.natAbs % 60)

def Moment.spelling (moment : Moment) : List Char :=
  moment.date.elim [] Date.spelling ++
    (if moment.date.isSome && moment.time.isSome then ['T'] else []) ++
    moment.time.elim [] Time.spelling ++ moment.offset.elim [] Offset.spelling

def longestRun (c : Char) (text : List Char) : Nat :=
  let step (runs : Nat × Nat) (d : Char) :=
    if d = c then (max runs.1 (runs.2 + 1), runs.2 + 1) else (runs.1, 0)
  (text.foldl step (0, 0)).1

def needsEscape (c : Char) : Bool :=
  c != '\t' && c != '\n' && !isPlain c

def hexText (width n : Nat) : List Char :=
  let digits := (Nat.toDigits 16 n).map Char.toUpper
  List.replicate (width - digits.length) '0' ++ digits

def escapeCharacter (isLong : Bool) (c : Char) : List Char :=
  match c with
  | '\x08' => ['\\', 'b']
  | '\t' => ['\\', 't']
  | '\n' => if isLong then ['\n'] else ['\\', 'n']
  | '\x0c' => ['\\', 'f']
  | '\r' => ['\\', 'r']
  | '\\' => ['\\', '\\']
  | c => if needsEscape c then '\\' :: 'u' :: hexText 4 c.toNat else [c]

def escapeBasic (isLong : Bool) (allowed : Nat) : Nat → List Char → List Char
  | _, [] => []
  | run, c :: rest =>
    -- Of a run of quotes as many stay bare as are allowed, and behind an escaped one the count
    -- starts anew.
    if c = '"' then
      if run < allowed then '"' :: escapeBasic isLong allowed (run + 1) rest
      else '\\' :: '"' :: escapeBasic isLong allowed 0 rest
    else escapeCharacter isLong c ++ escapeBasic isLong allowed 0 rest

def startLines (text : List Char) : List Char :=
  if text.contains '\n' then ['\n'] else []

def longBasic (text : List Char) : List Char :=
  "\"\"\"".toList ++ startLines text ++ escapeBasic true 2 0 text ++ "\"\"\"".toList

def longLiteral (text : List Char) : List Char :=
  "'''".toList ++ startLines text ++ text ++ "'''".toList

def shortBasic (text : List Char) : List Char :=
  '"' :: escapeBasic false 0 0 text ++ ['"']

-- A string in the first of its forms that needs no escape, or else in double quotes.
def stringText (text : List Char) : List Char :=
  let escapes := text.any needsEscape
  let bare := !escapes && !text.contains '\\'
  let lines := text.contains '\n'
  if bare && longestRun '"' text = 0 && !lines then shortBasic text
  else if !escapes && longestRun '\'' text = 0 && !lines then '\'' :: text ++ ['\'']
  else if bare && longestRun '"' text ≤ 2 then longBasic text
  else if !escapes && longestRun '\'' text ≤ 2 then longLiteral text
  else if lines then longBasic text
  else shortBasic text

def keyText (key : String) : List Char :=
  let text := key.toList
  if !text.isEmpty && text.all isBareKeyCharacter then text
  else if !text.any needsEscape && !text.contains '\n' && !text.contains '\\' &&
      !text.contains '"' then shortBasic text
  else if !text.any needsEscape && !text.contains '\n' && !text.contains '\'' then
    '\'' :: text ++ ['\'']
  else shortBasic text

def arrange (entries : List (String × List Char)) : List (List Char) :=
  (entries.mergeSort fun a b => a.1 ≤ b.1).map fun (key, value) =>
    keyText key ++ " = ".toList ++ value

mutual

def Value.spelling : Value → List Char
  | .string content => stringText content.toList
  | .integer n => integerText n.toInt
  | .float x => floatText x
  | .boolean b => (if b then "true" else "false").toList
  | .moment m => m.spelling
  | .array items => '[' :: (", ".toList).intercalate (spellItems items) ++ [']']
  | .table [] => ['{', '}']
  | .table (first :: rest) =>
    '{' :: ' ' :: (", ".toList).intercalate (arrange (spellEntries (first :: rest))) ++ [' ', '}']

def spellItems : List Value → List (List Char)
  | [] => []
  | item :: rest => item.spelling :: spellItems rest

def spellEntries : List (String × Value) → List (String × List Char)
  | [] => []
  | (key, item) :: rest => (key, item.spelling) :: spellEntries rest

end

end Stencil.Toml
