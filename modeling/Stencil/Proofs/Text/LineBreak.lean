import Mathlib.Data.List.Chain
import Stencil.Proofs.Text.Charset

set_option autoImplicit false

namespace Stencil.Text

def Unbroken {α : Type} (cr lf : α) (line : List α) : Prop :=
  line.IsChain fun a b => ¬(a = cr ∧ b = lf)

section

variable {α : Type} {cr lf : α} {line more : List α}

theorem unbroken_append (apart : line.getLast? ≠ some cr ∨ more.head? ≠ some lf) :
    Unbroken cr lf (line ++ more) ↔ Unbroken cr lf line ∧ Unbroken cr lf more := by
  rw [Unbroken, List.isChain_append]
  refine and_congr_right fun _ => and_iff_left fun last isLast first isFirst => ?_
  rintro ⟨rfl, rfl⟩
  exact apart.elim (· isLast) (· isFirst)

theorem unbroken_of_not_mem (none : cr ∉ line) : Unbroken cr lf line := by
  refine List.Pairwise.isChain (List.pairwise_of_forall_mem_list ?_)
  rintro a member b - ⟨rfl, -⟩
  exact none member

theorem Unbroken.tail {first : α} (unbroken : Unbroken cr lf (first :: line)) :
    Unbroken cr lf line :=
  List.IsChain.tail unbroken

end

theorem unbroken_latin1Bytes {text : List Char} :
    Unbroken 13 10 (latin1Bytes text) ↔ Unbroken '\r' '\n' text := by
  have same (byte : UInt8) (mark c : Char) (isByte : mark.toNat = byte.toNat) (other : mark ≠ '?')
      (low : mark.toNat ≤ 0xff) : latin1Byte c = byte ↔ c = mark := by
    rw [← UInt8.toNat_inj, toNat_latin1Byte, ← isByte]
    split
    next => exact Char.toNat_inj
    next high =>
      refine ⟨fun alike => absurd (Char.toNat_inj.1 alike).symm other, ?_⟩
      rintro rfl
      exact absurd low high
  rw [latin1Bytes, Unbroken, List.isChain_map, Unbroken]
  simp only [same 13 '\r' _ rfl (by decide) (by decide), same 10 '\n' _ rfl (by decide) (by decide)]

def IsPlain (text : String) : Prop :=
  Unbroken '\r' '\n' text.toList

instance : DecidablePred IsPlain :=
  fun text => inferInstanceAs (Decidable (text.toList.IsChain _))

def IsMark (mark : String) : Prop :=
  mark.toList ≠ [] ∧ '\r' ∉ mark.toList ∧ '\n' ∉ mark.toList

instance (mark : String) : Decidable (IsMark mark) :=
  inferInstanceAs (Decidable (_ ∧ _))

section

variable {mark : String} {text more : List Char}

theorem IsMark.head?_ne (isMark : IsMark mark) : (mark.toList ++ more).head? ≠ some '\n' := by
  obtain ⟨some, -, plain⟩ := isMark
  rw [List.head?_append_of_ne_nil _ some]
  exact fun first => plain (List.mem_of_head? first)

theorem IsMark.unbroken_append (isMark : IsMark mark) :
    Unbroken '\r' '\n' (mark.toList ++ more) ↔ Unbroken '\r' '\n' more := by
  have apart : mark.toList.getLast? ≠ some '\r' := fun last =>
    isMark.2.1 (List.mem_of_getLast? last)
  rw [Text.unbroken_append (.inl apart)]
  exact and_iff_right (unbroken_of_not_mem isMark.2.1)

theorem IsMark.unbroken_between (isMark : IsMark mark) :
    Unbroken '\r' '\n' (text ++ (mark.toList ++ more)) ↔
      Unbroken '\r' '\n' text ∧ Unbroken '\r' '\n' more := by
  rw [Text.unbroken_append (.inr isMark.head?_ne), isMark.unbroken_append]

theorem not_mem_toString (n : Nat) {c : Char} (other : c.isDigit = false) :
    c ∉ (toString n).toList := by
  intro member
  rw [Nat.toString_eq_repr, Nat.toList_repr] at member
  have digit := Nat.isDigit_of_mem_toDigits (by decide) (by decide) member
  rw [digit] at other
  cases other

theorem isMark_toString (n : Nat) : IsMark (toString n) := by
  refine ⟨?_, not_mem_toString n (by decide), not_mem_toString n (by decide)⟩
  rw [Nat.toString_eq_repr, Nat.toList_repr]
  exact Nat.toDigits_ne_nil

theorem IsMark.attribute (isMark : IsMark mark) (value : Option String)
    (apart : more.head? ≠ some '\n') :
    ((value.elim "" (mark ++ ·)).toList ++ more).head? ≠ some '\n' ∧
      (Unbroken '\r' '\n' ((value.elim "" (mark ++ ·)).toList ++ more) ↔
        (∀ given ∈ value, IsPlain given) ∧ Unbroken '\r' '\n' more) := by
  cases value with
  | none => simpa using apart
  | some given =>
    simp only [Option.elim_some, String.toList_append, List.append_assoc]
    refine ⟨isMark.head?_ne, ?_⟩
    rw [isMark.unbroken_append, Text.unbroken_append (.inr apart)]
    simp [IsPlain]

end

theorem Charset.not_mem_of_ofLabel? {label : String} {charset : Charset}
    (known : Charset.ofLabel? label = some charset) : '\r' ∉ label.toList := by
  intro member
  have lowered : '\r' ∈ label.toList.map Char.toLower := List.mem_map.2 ⟨_, member, by decide⟩
  have other (name : String) (without : '\r' ∉ name.toList) :
      label.toList.map Char.toLower ≠ name.toList := fun same => without (same ▸ lowered)
  have unknown : Charset.ofLabel? label = none := by
    simp only [ofLabel?, other "utf-8" (by decide), other "utf8" (by decide),
      other "iso-8859-1" (by decide), other "iso8859-1" (by decide), other "latin1" (by decide),
      other "latin-1" (by decide), or_self, if_false]
  rw [unknown] at known
  cases known

theorem latin1Bytes_append (text more : String) :
    latin1Bytes (text ++ more).toList = latin1Bytes text.toList ++ latin1Bytes more.toList := by
  rw [latin1Bytes, String.toList_append, List.map_append]
  rfl

theorem latin1Bytes_lineEnd : latin1Bytes "\r\n".toList = [13, 10] := by
  decide

def cutAtBlankLine? : List UInt8 → Option (List UInt8 × List UInt8)
  | 13 :: 10 :: 13 :: 10 :: rest => some ([], rest)
  | byte :: rest => (cutAtBlankLine? rest).map fun (before, after) => (byte :: before, after)
  | [] => none

def splitLines : List UInt8 → List (List UInt8)
  | 13 :: 10 :: rest => [] :: splitLines rest
  | byte :: rest => (splitLines rest).modifyHead (byte :: ·)
  | [] => [[]]

/-- The lines in front of the first blank line, and the bytes behind it. -/
def readHead? (data : List UInt8) : Option (List (List UInt8) × List UInt8) :=
  (cutAtBlankLine? data).map fun (head, body) => (splitLines head, body)

def headOf (lines : List (List UInt8)) : List UInt8 :=
  lines.flatMap (· ++ [13, 10]) ++ [13, 10]

theorem headOf_cons (line : List UInt8) (lines : List (List UInt8)) :
    headOf (line :: lines) = line ++ 13 :: 10 :: headOf lines := by
  simp [headOf]

variable {line data : List UInt8} {lines : List (List UInt8)}

theorem Unbroken.noBreak {byte : UInt8} (unbroken : Unbroken 13 10 (byte :: line))
    (apart : data.head? ≠ some 10) (rest : List UInt8) (isReturn : byte = 13) :
    line ++ data ≠ 10 :: rest := by
  -- The line feed would have to come from the line itself or from what follows it.
  intro same
  cases line with
  | nil => exact apart (by rw [← List.nil_append data, same, List.head?_cons])
  | cons next line =>
    have feed : next = 10 := (List.cons.inj same).1
    exact (List.isChain_cons_cons.1 unbroken).1 ⟨isReturn, feed⟩

theorem splitLines_append_break (unbroken : Unbroken 13 10 line) (rest : List UInt8) :
    splitLines (line ++ 13 :: 10 :: rest) = line :: splitLines rest := by
  induction line with
  | nil => rw [List.nil_append, splitLines]
  | cons byte line ih =>
    rw [List.cons_append, splitLines, ih unbroken.tail, List.modifyHead_cons]
    exact unbroken.noBreak (by simp)

theorem splitLines_of_unbroken (unbroken : Unbroken 13 10 line) : splitLines line = [line] := by
  induction line with
  | nil => rfl
  | cons byte line ih =>
    rw [splitLines, ih unbroken.tail, List.modifyHead_cons]
    intro rest isReturn same
    have atEnd : ([] : List UInt8).head? ≠ some 10 := nofun
    exact unbroken.noBreak atEnd rest isReturn (by rw [List.append_nil, same])

theorem cutAtBlankLine?_append (unbroken : Unbroken 13 10 line) (apart : data.head? ≠ some 10) :
    cutAtBlankLine? (line ++ data) =
      (cutAtBlankLine? data).map fun (before, after) => (line ++ before, after) := by
  induction line with
  | nil => simp
  | cons byte line ih =>
    rw [List.cons_append, cutAtBlankLine?, ih unbroken.tail, Option.map_map]
    next => rfl
    next => exact fun rest isReturn => unbroken.noBreak apart _ isReturn

theorem cutAtBlankLine?_break (filled : ∀ rest, data ≠ 13 :: 10 :: rest) :
    cutAtBlankLine? (13 :: 10 :: data) =
      (cutAtBlankLine? data).map fun (before, after) => (13 :: 10 :: before, after) := by
  rw [cutAtBlankLine?, cutAtBlankLine?, Option.map_map]
  next => rfl
  next => exact fun rest isReturn => absurd isReturn (by decide)
  next => exact fun rest _ same => filled rest (List.cons.inj same).2

theorem readHead?_line (unbroken : Unbroken 13 10 line) (filled : ∀ rest, data ≠ 13 :: 10 :: rest) :
    readHead? (line ++ 13 :: 10 :: data) =
      (readHead? data).map fun (lines, body) => (line :: lines, body) := by
  rw [readHead?, cutAtBlankLine?_append unbroken (by simp), cutAtBlankLine?_break filled, readHead?]
  simp only [Option.map_map]
  congr 1
  funext ⟨head, body⟩
  simp [splitLines_append_break unbroken]

theorem readHead?_lastLine (unbroken : Unbroken 13 10 line) (body : List UInt8) :
    readHead? (line ++ 13 :: 10 :: 13 :: 10 :: body) = some ([line], body) := by
  rw [readHead?, cutAtBlankLine?_append unbroken (by simp), cutAtBlankLine?]
  simp [splitLines_of_unbroken unbroken]

theorem readHead?_headOf (some : lines ≠ [])
    (each : ∀ line ∈ lines, line ≠ [] ∧ Unbroken 13 10 line) (body : List UInt8) :
    readHead? (headOf lines ++ body) = .some (lines, body) := by
  induction lines with
  | nil => exact absurd rfl some
  | cons line rest ih =>
    obtain ⟨⟨-, unbroken⟩, later⟩ := List.forall_mem_cons.1 each
    rw [headOf_cons, List.append_assoc, List.cons_append, List.cons_append]
    cases rest with
    | nil => exact readHead?_lastLine unbroken body
    | cons next rest =>
      -- The next line is not empty, so this break is not the blank line.
      have filled (more : List UInt8) : headOf (next :: rest) ++ body ≠ 13 :: 10 :: more := by
        obtain ⟨nonempty, whole⟩ := later next List.mem_cons_self
        rw [headOf_cons, List.append_assoc]
        cases next with
        | nil => exact absurd rfl nonempty
        | cons byte next =>
          intro same
          obtain ⟨isReturn, feed⟩ := List.cons.inj same
          exact whole.noBreak (by simp) more isReturn feed
      rw [readHead?_line unbroken filled, ih (List.cons_ne_nil _ _) later]
      rfl

theorem unbroken_of_splitLines (data : List UInt8) :
    ∃ line lines, splitLines data = line :: lines ∧ line <+: data ∧
      ∀ one ∈ line :: lines, Unbroken 13 10 one := by
  induction data using splitLines.induct with
  | case1 rest ih =>
    obtain ⟨line, lines, split, -, unbroken⟩ := ih
    rw [splitLines, split]
    exact ⟨[], line :: lines, rfl, List.nil_prefix, List.forall_mem_cons.2 ⟨.nil, unbroken⟩⟩
  | case2 byte rest apart ih =>
    obtain ⟨line, lines, split, begins, unbroken⟩ := ih
    obtain ⟨first, later⟩ := List.forall_mem_cons.1 unbroken
    rw [splitLines, split, List.modifyHead_cons]
    rotate_left
    next => exact apart
    refine ⟨byte :: line, lines, rfl, List.cons_prefix_cons.2 ⟨rfl, begins⟩,
      List.forall_mem_cons.2 ⟨List.isChain_cons.2 ⟨?_, first⟩, later⟩⟩
    -- What the first line begins with is what stands behind the byte.
    rintro next isNext ⟨isReturn, rfl⟩
    obtain ⟨more, rfl⟩ := begins
    obtain ⟨line, rfl⟩ := List.head?_eq_some_iff.1 isNext
    exact apart (line ++ more) isReturn rfl
  | case3 => exact ⟨[], [], rfl, List.nil_prefix, List.forall_mem_cons.2 ⟨.nil, nofun⟩⟩

theorem readHead?_headOf_iff (some : lines ≠ []) (each : ∀ line ∈ lines, line ≠ [])
    (body : List UInt8) :
    readHead? (headOf lines ++ body) = .some (lines, body) ↔
      ∀ line ∈ lines, Unbroken 13 10 line := by
  constructor
  next =>
    intro read
    obtain ⟨⟨head, rest⟩, -, same⟩ := Option.map_eq_some_iff.1 read
    obtain ⟨line, others, split, -, unbroken⟩ := unbroken_of_splitLines head
    have lines : splitLines head = lines := (Prod.ext_iff.1 same).1
    rwa [← lines, split]
  next => exact fun unbroken =>
    readHead?_headOf some (fun line member => ⟨each line member, unbroken line member⟩) body

end Stencil.Text
