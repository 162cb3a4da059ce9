import Stencil.Proofs.Element.Spelling
import Stencil.Proofs.Text.Utf8
import Stencil.Token

set_option autoImplicit false

namespace Stencil.TagScan

def readOutside (c : Char) : TagScan :=
  if c = '"' then quoted
  else if c = '$' then dollar
  else outside

def read : TagScan → Char → TagScan
  | outside, c => readOutside c
  | dollar, c => if c = '}' then closed else readOutside c
  | quoted, c =>
    if c = '\\' then escaped
    else if c = '"' then outside
    else quoted
  | escaped, _ => quoted
  | closed, _ => closed

def settle : TagScan → TagScan
  | outside | dollar => outside
  | quoted | escaped => quoted
  | closed => closed

theorem settle_settle (scan : TagScan) : scan.settle.settle = scan.settle := by
  cases scan <;> rfl

-- No byte from 128 on is one of the marks.
theorem feed_large (scan : TagScan) {byte : UInt8} (large : 128 ≤ byte.toNat) :
    scan.feed byte = scan.settle := by
  have quote := Text.ne_of_large large '"'.toUInt8 (by decide)
  have dollar := Text.ne_of_large large '$'.toUInt8 (by decide)
  have brace := Text.ne_of_large large '}'.toUInt8 (by decide)
  have backslash := Text.ne_of_large large '\\'.toUInt8 (by decide)
  cases scan <;> simp [feed, feedOutside, settle, quote, dollar, brace, backslash]

theorem foldl_feed_large {bytes : List UInt8} (some : bytes ≠ [])
    (large : ∀ byte ∈ bytes, 128 ≤ byte.toNat) (scan : TagScan) :
    bytes.foldl feed scan = scan.settle := by
  induction bytes generalizing scan with
  | nil => exact absurd rfl some
  | cons byte rest ih =>
    rw [List.foldl_cons, feed_large scan (large byte List.mem_cons_self)]
    by_cases last : rest = []
    next => rw [last, List.foldl_nil]
    next => rw [ih last (fun b member => large b (List.mem_cons_of_mem _ member)), settle_settle]

theorem feedCharacter_eq (scan : TagScan) (c : Char) : scan.feedCharacter c = scan.read c := by
  unfold feedCharacter
  by_cases ascii : c.toNat < 128
  next =>
    have quote := Text.ascii_eq_iff ascii '"' (by decide)
    have dollar := Text.ascii_eq_iff ascii '$' (by decide)
    have brace := Text.ascii_eq_iff ascii '}' (by decide)
    have backslash := Text.ascii_eq_iff ascii '\\' (by decide)
    rw [Text.utf8EncodeChar_of_ascii ascii]
    cases scan <;>
      simp [feed, feedOutside, read, readOutside, quote, dollar, brace, backslash]
  next =>
    have beyond : 128 ≤ c.toNat := Nat.le_of_not_lt ascii
    have other (mark : Char) (asciiMark : mark.toNat < 128) : c ≠ mark := by
      rintro rfl
      exact ascii asciiMark
    rw [foldl_feed_large String.utf8EncodeChar_ne_nil (Text.large_of_mem_utf8EncodeChar beyond)]
    cases scan <;>
      simp [settle, read, readOutside, other '"' (by decide),
        other '$' (by decide), other '}' (by decide),
        other '\\' (by decide)]

def Passes (scan : TagScan) (text : List Char) (next : TagScan) : Prop :=
  ∀ rest, split? scan (text ++ rest) =
    (split? next rest).map fun (inner, after) => (text ++ inner, after)

theorem Passes.nil (scan : TagScan) : Passes scan [] scan := by
  intro rest
  simp

theorem Passes.append {scan middle next : TagScan} {text more : List Char}
    (first : Passes scan text middle) (second : Passes middle more next) :
    Passes scan (text ++ more) next := by
  intro rest
  rw [List.append_assoc, first, second, Option.map_map]
  simp [Function.comp_def]

theorem Passes.cons {scan next : TagScan} {c : Char} {text : List Char}
    (notEnd : scan.read c ≠ closed) (later : Passes (scan.read c) text next) :
    Passes scan (c :: text) next := by
  intro rest
  rw [List.cons_append, split?]
  simp only [feedCharacter_eq, if_neg notEnd]
  rw [later, Option.map_map]
  simp [Function.comp_def]

theorem passes_outside {text : List Char} (plain : ∀ c ∈ text, c ≠ '"' ∧ c ≠ '$') :
    Passes outside text outside := by
  induction text with
  | nil => exact .nil outside
  | cons c rest ih =>
    have first := plain c List.mem_cons_self
    have stays : outside.read c = outside := by simp [read, readOutside, first]
    refine .cons (by simp [stays]) ?_
    rw [stays]
    exact ih fun d member => plain d (List.mem_cons_of_mem _ member)

theorem passes_encoded (text : List Char) :
    Passes quoted (text.flatMap Text.Quoted.encodeCharacter) quoted := by
  induction text with
  | nil => exact .nil quoted
  | cons c rest ih =>
    rw [List.flatMap_cons]
    refine Passes.append ?_ ih
    rcases Text.Quoted.encodeCharacter_cases c with ⟨same, quote, backslash, -⟩ | ⟨mark, same, -⟩
    next =>
      have stays : quoted.read c = quoted := by simp [read, quote, backslash]
      rw [same]
      refine .cons (by simp [stays]) ?_
      rw [stays]
      exact .nil quoted
    next =>
      rw [same]
      exact .cons (by simp [read]) (.cons (by simp [read]) (.nil quoted))

theorem passes_encode (text : List Char) : Passes outside (Text.Quoted.encode text) outside :=
  .cons (by simp [read, readOutside])
    (.append (passes_encoded text) (.cons (by simp [read]) (.nil outside)))

theorem split?_closing (rest : List Char) :
    split? outside (tagClosing ++ rest) = some (tagClosing, rest) := by
  simp [tagClosing, split?, feedCharacter_eq, read, readOutside]

end Stencil.TagScan
