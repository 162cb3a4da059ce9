import Stencil.Text.Encoding
import Stencil.Text.Lossy

set_option autoImplicit false

namespace Stencil.Text

namespace Pending

variable {value : Nat}

theorem ofFirst?_of_two (wide : 0x80 ≤ value) (narrow : value ≤ 0x7ff) :
    ofFirst? (value / 64 % 32 + 192) = some ⟨0x80, 0xbf, 0, value / 64⟩ := by
  rw [ofFirst?, if_pos (by omega)]
  simp only [Option.some.injEq, mk.injEq, true_and]
  omega

theorem ofFirst?_of_three (wide : 0x800 ≤ value) (narrow : value ≤ 0xffff)
    (scalar : value < 0xd800 ∨ 0xdfff < value) :
    ∃ low high, ofFirst? (value / 4096 % 16 + 224) = some ⟨low, high, 1, value / 4096⟩ ∧
      low ≤ value / 64 % 64 + 128 ∧ value / 64 % 64 + 128 ≤ high := by
  have bits : value / 4096 % 16 + 224 - 0xe0 = value / 4096 := by omega
  rw [ofFirst?, if_neg (by omega), bits]
  by_cases least : value / 4096 = 0
  next =>
    rw [if_pos (by omega)]
    exact ⟨_, _, rfl, by omega, by omega⟩
  next =>
    rw [if_neg (by omega)]
    by_cases beforeSurrogates : value / 4096 = 13
    next =>
      rw [if_pos (by omega)]
      exact ⟨_, _, rfl, by omega, by omega⟩
    next =>
      rw [if_neg (by omega), if_pos (by omega)]
      exact ⟨_, _, rfl, by omega, by omega⟩

theorem ofFirst?_of_four (wide : 0x10000 ≤ value) (narrow : value ≤ 0x10ffff) :
    ∃ low high, ofFirst? (value / 262144 % 8 + 240) = some ⟨low, high, 2, value / 262144⟩ ∧
      low ≤ value / 4096 % 64 + 128 ∧ value / 4096 % 64 + 128 ≤ high := by
  have bits : value / 262144 % 8 + 240 - 0xf0 = value / 262144 := by omega
  rw [ofFirst?, if_neg (by omega), if_neg (by omega), if_neg (by omega), if_neg (by omega), bits]
  by_cases least : value / 262144 = 0
  next =>
    rw [if_pos (by omega)]
    exact ⟨_, _, rfl, by omega, by omega⟩
  next =>
    rw [if_neg (by omega)]
    by_cases last : value / 262144 = 4
    next =>
      rw [if_pos (by omega)]
      exact ⟨_, _, rfl, by omega, by omega⟩
    next =>
      rw [if_neg (by omega), if_pos (by omega)]
      exact ⟨_, _, rfl, by omega, by omega⟩

end Pending

variable {pending : Pending} {byte : Nat} {rest : List UInt8}

theorem lossyFrom_of_first (large : 0x80 ≤ byte) (isByte : byte < 256)
    (opens : Pending.ofFirst? byte = some pending) :
    lossyFrom none (UInt8.ofNat byte :: rest) = lossyFrom (some pending) rest := by
  simp [lossyFrom, beginCharacter, Nat.mod_eq_of_lt isByte, Nat.not_lt.2 large, opens]

theorem lossyFrom_of_later {low high later bits : Nat} (least : low ≤ byte) (most : byte ≤ high)
    (isByte : byte < 256) :
    lossyFrom (some ⟨low, high, later + 1, bits⟩) (UInt8.ofNat byte :: rest) =
      lossyFrom (some ⟨0x80, 0xbf, later, bits * 64 + (byte - 0x80)⟩) rest := by
  simp [lossyFrom, Pending.feed, Nat.mod_eq_of_lt isByte, least, most]

theorem lossyFrom_of_last {low high bits : Nat} (least : low ≤ byte) (most : byte ≤ high)
    (isByte : byte < 256) :
    lossyFrom (some ⟨low, high, 0, bits⟩) (UInt8.ofNat byte :: rest) =
      Char.ofNat (bits * 64 + (byte - 0x80)) :: lossyFrom none rest := by
  simp [lossyFrom, Pending.feed, Nat.mod_eq_of_lt isByte, least, most]

theorem lossyFrom_utf8EncodeChar_append (c : Char) (rest : List UInt8) :
    lossyFrom none (String.utf8EncodeChar c ++ rest) = c :: lossyFrom none rest := by
  have scalar : c.val.toNat < 0xd800 ∨ 0xdfff < c.val.toNat ∧ c.val.toNat < 0x110000 := c.valid
  have whole : Char.ofNat c.val.toNat = c := Char.ofNat_toNat c
  simp only [String.utf8EncodeChar]
  generalize c.val.toNat = value at scalar whole
  split
  next ascii =>
    have isByte : value % 256 = value := by omega
    simp [lossyFrom, beginCharacter, isByte, Nat.lt_succ_of_le ascii, whole]
  next =>
    split
    next narrow =>
      have wide : 0x80 ≤ value := by omega
      have opens := Pending.ofFirst?_of_two wide narrow
      have bits : value / 64 * 64 + (value % 64 + 128 - 0x80) = value := by omega
      simp only [List.cons_append, List.nil_append]
      rw [lossyFrom_of_first (by omega) (by omega) opens,
        lossyFrom_of_last (by omega) (by omega) (by omega), bits, whole]
    next =>
      split
      next narrow =>
        have wide : 0x800 ≤ value := by omega
        obtain ⟨low, high, opens, least, most⟩ :=
          Pending.ofFirst?_of_three wide narrow (by omega)
        have bits : (value / 4096 * 64 + (value / 64 % 64 + 128 - 0x80)) * 64 +
            (value % 64 + 128 - 0x80) = value := by omega
        simp only [List.cons_append, List.nil_append]
        rw [lossyFrom_of_first (by omega) (by omega) opens,
          lossyFrom_of_later least most (by omega),
          lossyFrom_of_last (by omega) (by omega) (by omega), bits, whole]
      next =>
        have wide : 0x10000 ≤ value := by omega
        obtain ⟨low, high, opens, least, most⟩ := Pending.ofFirst?_of_four wide (by omega)
        have bits : ((value / 262144 * 64 + (value / 4096 % 64 + 128 - 0x80)) * 64 +
            (value / 64 % 64 + 128 - 0x80)) * 64 + (value % 64 + 128 - 0x80) = value := by omega
        simp only [List.cons_append, List.nil_append]
        rw [lossyFrom_of_first (by omega) (by omega) opens,
          lossyFrom_of_later least most (by omega),
          lossyFrom_of_later (by omega) (by omega) (by omega),
          lossyFrom_of_last (by omega) (by omega) (by omega), bits, whole]

theorem lossy_utf8Bytes (text : List Char) : lossy (utf8Bytes text) = text := by
  induction text with
  | nil => rfl
  | cons c rest ih =>
    rw [utf8Bytes, List.flatMap_cons, lossy, lossyFrom_utf8EncodeChar_append]
    exact congrArg (c :: ·) ih

end Stencil.Text
