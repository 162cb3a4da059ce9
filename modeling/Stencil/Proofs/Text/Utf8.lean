import Mathlib.Data.List.TakeWhile
import Stencil.Text.Encoding

set_option autoImplicit false

namespace Stencil.Text

theorem ne_of_large {byte : UInt8} (large : 128 ≤ byte.toNat) (small : UInt8)
    (isSmall : small.toNat < 128) : byte ≠ small := by
  rintro rfl
  omega

theorem utf8EncodeChar_of_ascii {c : Char} (ascii : c.toNat < 128) :
    String.utf8EncodeChar c = [c.toUInt8] := by
  have small : c.val.toNat ≤ 0x7f := Nat.le_of_lt_succ ascii
  simp only [String.utf8EncodeChar, if_pos small]
  rfl

theorem large_of_mem_utf8EncodeChar {c : Char} (beyond : 128 ≤ c.toNat) :
    ∀ byte ∈ String.utf8EncodeChar c, 128 ≤ byte.toNat := by
  have notSmall : ¬ c.val.toNat ≤ 0x7f := Nat.not_le.2 (Nat.lt_of_succ_le beyond)
  -- A leading byte has at least its two highest bits set, and the others have their highest one.
  simp only [String.utf8EncodeChar, if_neg notSmall]
  split
  next => simp only [List.forall_mem_cons, UInt8.toNat_ofNat']; grind
  next =>
    split <;> simp only [List.forall_mem_cons, UInt8.toNat_ofNat'] <;> grind

theorem ascii_eq_iff {c : Char} (ascii : c.toNat < 128) (mark : Char)
    (asciiMark : mark.toNat < 128) : c.toUInt8 = mark.toUInt8 ↔ c = mark := by
  constructor
  next =>
    intro same
    have values := congrArg UInt8.toNat same
    simp only [Char.toUInt8, UInt32.toNat_toUInt8] at values
    have small : c.val.toNat < 128 := ascii
    have smallMark : mark.val.toNat < 128 := asciiMark
    exact Char.ext (UInt32.toNat_inj.1 (by omega))
  next =>
    rintro rfl
    rfl

variable {symbols text before run after : List Char}

theorem utf8Bytes_of_ascii (ascii : ∀ c ∈ text, c.toNat < 128) :
    utf8Bytes text = text.map Char.toUInt8 := by
  induction text with
  | nil => rfl
  | cons c rest ih =>
    obtain ⟨first, others⟩ := List.forall_mem_cons.1 ascii
    rw [utf8Bytes, List.flatMap_cons, utf8EncodeChar_of_ascii first, ← utf8Bytes, ih others]
    rfl

theorem mem_bytes_iff (ascii : ∀ c ∈ symbols, c.toNat < 128) {c : Char} {byte : UInt8}
    (member : byte ∈ String.utf8EncodeChar c) : byte ∈ symbols.map Char.toUInt8 ↔ c ∈ symbols := by
  rw [List.mem_map]
  by_cases small : c.toNat < 128
  next =>
    rw [utf8EncodeChar_of_ascii small, List.mem_singleton] at member
    constructor
    next =>
      rintro ⟨mark, isSymbol, same⟩
      have equal := (ascii_eq_iff small mark (ascii mark isSymbol)).1 (member.symm.trans same.symm)
      rwa [equal]
    next => exact fun isSymbol => ⟨c, isSymbol, member.symm⟩
  next =>
    have large := large_of_mem_utf8EncodeChar (Nat.le_of_not_lt small) byte member
    constructor
    next =>
      rintro ⟨mark, isSymbol, rfl⟩
      have asciiMark := ascii mark isSymbol
      have value : mark.toUInt8.toNat = mark.toNat % 256 := UInt32.toNat_toUInt8 mark.val
      omega
    next => exact fun isSymbol => absurd (ascii c isSymbol) small

theorem takeWhile_utf8Bytes {isText : Char → Bool} {isByte : UInt8 → Bool}
    (agree : ∀ c, ∀ byte ∈ String.utf8EncodeChar c, isByte byte = isText c) (text : List Char) :
    (utf8Bytes text).takeWhile isByte = utf8Bytes (text.takeWhile isText) := by
  induction text with
  | nil => rfl
  | cons c rest ih =>
    rw [utf8Bytes, List.flatMap_cons, ← utf8Bytes]
    by_cases goesOn : isText c = true
    next =>
      have all : ∀ byte ∈ String.utf8EncodeChar c, isByte byte = true :=
        fun byte member => (agree c byte member).trans goesOn
      rw [List.takeWhile_append_of_pos all, ih, List.takeWhile_cons_of_pos goesOn]
      rfl
    next =>
      obtain ⟨byte, others, first⟩ :=
        List.exists_cons_of_ne_nil (String.utf8EncodeChar_ne_nil (c := c))
      have stops : ¬ isByte byte = true := by rwa [agree c byte (by simp [first])]
      rw [first, List.cons_append, List.takeWhile_cons_of_neg stops,
        List.takeWhile_cons_of_neg goesOn]
      rfl

structure IsFirstRun {α : Type} (symbols text before run after : List α) : Prop where
  whole : text = before ++ run ++ after
  nonempty : run ≠ []
  before : ∀ a ∈ before, a ∉ symbols
  run : ∀ a ∈ run, a ∈ symbols
  after : ∀ a ∈ after.head?, a ∉ symbols

theorem IsFirstRun.utf8Bytes (ascii : ∀ c ∈ symbols, c.toNat < 128)
    (first : IsFirstRun symbols text before run after) :
    IsFirstRun (symbols.map Char.toUInt8) (Text.utf8Bytes text) (Text.utf8Bytes before)
      (Text.utf8Bytes run) (Text.utf8Bytes after) where
  whole := by rw [first.whole, Text.utf8Bytes, List.flatMap_append, List.flatMap_append]; rfl
  nonempty := by
    obtain ⟨c, rest, same⟩ := List.exists_cons_of_ne_nil first.nonempty
    simp [same, Text.utf8Bytes, String.utf8EncodeChar_ne_nil]
  before byte member := by
    obtain ⟨c, inside, member⟩ := List.mem_flatMap.1 member
    rw [mem_bytes_iff ascii member]
    exact first.before c inside
  run byte member := by
    obtain ⟨c, inside, member⟩ := List.mem_flatMap.1 member
    rw [mem_bytes_iff ascii member]
    exact first.run c inside
  after byte head := by
    cases after with
    | nil => cases head
    | cons c rest =>
      obtain ⟨lead, others, bytes⟩ :=
        List.exists_cons_of_ne_nil (String.utf8EncodeChar_ne_nil (c := c))
      rw [Text.utf8Bytes, List.flatMap_cons, bytes] at head
      obtain rfl := Option.some.inj head
      rw [mem_bytes_iff ascii (c := c) (by simp [bytes])]
      exact first.after c rfl

end Stencil.Text
