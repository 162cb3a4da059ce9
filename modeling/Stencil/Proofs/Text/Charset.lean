import Mathlib.Data.List.Forall2
import Stencil.Text.Encoding

set_option autoImplicit false

namespace Stencil.Text

theorem utf8Bytes_eq (text : List Char) :
    utf8Bytes text = (String.ofList text).toUTF8.data.toList := by
  rw [String.toUTF8_eq_toByteArray, String.toByteArray_ofList, List.utf8Encode]
  simp [utf8Bytes]

theorem fromUTF8?_eq_some_iff {bytes : List UInt8} {text : String} :
    String.fromUTF8? bytes.toByteArray = some text ↔ bytes = utf8Bytes text.toList := by
  have utf8 : utf8Bytes text.toList = text.toUTF8.data.toList := by
    rw [utf8Bytes_eq, String.ofList_toList]
  have same : bytes = text.toUTF8.data.toList ↔ bytes.toByteArray = text.toUTF8 := by
    rw [ByteArray.ext_iff, ← Array.toList_inj]
    simp
  rw [utf8, same, String.fromUTF8?]
  constructor
  next =>
    intro found
    split at found <;> cases found
    rfl
  next =>
    intro bytes
    rw [bytes]
    exact dif_pos text.isValidUTF8

theorem toNat_latin1Byte (c : Char) :
    (latin1Byte c).toNat = if c.toNat ≤ 0xff then c.toNat else '?'.toNat := by
  unfold latin1Byte
  by_cases isByte : c.toNat < 256
  next =>
    rw [if_pos isByte, if_pos (Nat.le_of_lt_succ isByte)]
    exact UInt8.toNat_ofNat_of_lt' isByte
  next =>
    rw [if_neg isByte, if_neg (by omega)]
    rfl

namespace Charset

/-- Whether bytes are a text in a charset: its UTF-8 form as it is, or a byte for each character,
which is its code point if that is a byte. -/
def Represents (charset : Charset) (text : List Char) (bytes : List UInt8) : Prop :=
  match charset with
  | utf8 => bytes = (String.ofList text).toUTF8.data.toList
  | latin1 =>
    List.Forall₂ (fun c byte => byte.toNat = if c.toNat ≤ 0xff then c.toNat else '?'.toNat) text bytes

def decode? : Charset → List UInt8 → Option (List Char)
  | utf8, bytes => (ByteArray.mk bytes.toArray).utf8Decode?.map Array.toList
  | latin1, bytes => some (bytes.map fun byte => Char.ofNat byte.toNat)

def kept : Charset → Char → Char
  | utf8, c => c
  | latin1, c => if c.toNat ≤ 0xff then c else '?'

theorem represents_encode (charset : Charset) (text : List Char) :
    charset.Represents text (charset.encode text) := by
  cases charset with
  | utf8 => exact utf8Bytes_eq text
  | latin1 =>
    change List.Forall₂ _ text (text.map latin1Byte)
    rw [List.forall₂_map_right_iff, List.forall₂_same]
    exact fun c _ => toNat_latin1Byte c

theorem decode?_encode (charset : Charset) (text : List Char) :
    charset.decode? (charset.encode text) = some (text.map charset.kept) := by
  cases charset with
  | utf8 =>
    have bytes : ByteArray.mk (utf8Bytes text).toArray = text.utf8Encode := by
      rw [utf8Bytes_eq, String.toUTF8_eq_toByteArray, String.toByteArray_ofList, Array.toArray_toList]
    have whole : text.map utf8.kept = text := List.map_id text
    rw [decode?, encode, bytes, List.utf8Decode?_utf8Encode, whole]
    rfl
  | latin1 =>
    have read (c : Char) : Char.ofNat (latin1Byte c).toNat = latin1.kept c := by
      rw [toNat_latin1Byte, kept]
      split
      next => exact Char.ofNat_toNat c
      next => rfl
    simp [decode?, encode, latin1Bytes, read]

theorem encode_newline (charset : Charset) : charset.encode ['\n'] = ['\n'.toUInt8] := by
  cases charset <;> rfl

end Charset

end Stencil.Text
