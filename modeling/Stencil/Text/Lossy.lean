set_option autoImplicit false

namespace Stencil.Text

/-- A character of which the first bytes are read: between which bounds the next one has to lie, how
many come behind that, and the bits so far. -/
structure Pending where
  low : Nat
  high : Nat
  later : Nat
  bits : Nat

def Pending.ofFirst? (byte : Nat) : Option Pending :=
  if 0xc2 ≤ byte ∧ byte ≤ 0xdf then some ⟨0x80, 0xbf, 0, byte - 0xc0⟩
  -- Longer forms than needed, surrogates and what lies behind the last character are ruled out.
  else if byte = 0xe0 then some ⟨0xa0, 0xbf, 1, byte - 0xe0⟩
  else if byte = 0xed then some ⟨0x80, 0x9f, 1, byte - 0xe0⟩
  else if 0xe1 ≤ byte ∧ byte ≤ 0xef then some ⟨0x80, 0xbf, 1, byte - 0xe0⟩
  else if byte = 0xf0 then some ⟨0x90, 0xbf, 2, byte - 0xf0⟩
  else if byte = 0xf4 then some ⟨0x80, 0x8f, 2, byte - 0xf0⟩
  else if 0xf1 ≤ byte ∧ byte ≤ 0xf3 then some ⟨0x80, 0xbf, 2, byte - 0xf0⟩
  else none

def replacement : Char := '\ufffd'

def beginCharacter (byte : Nat) : List Char × Option Pending :=
  if byte < 0x80 then ([Char.ofNat byte], none)
  else
    match Pending.ofFirst? byte with
    | some pending => ([], some pending)
    | none => ([replacement], none)

def Pending.feed (pending : Pending) (byte : Nat) : List Char × Option Pending :=
  if pending.low ≤ byte ∧ byte ≤ pending.high then
    let bits := pending.bits * 64 + (byte - 0x80)
    match pending.later with
    | 0 => ([Char.ofNat bits], none)
    | later + 1 => ([], some ⟨0x80, 0xbf, later, bits⟩)
  else
    -- A byte that breaks one character off may begin another one.
    let (characters, next) := beginCharacter byte
    (replacement :: characters, next)

def lossyFrom : Option Pending → List UInt8 → List Char
  | none, [] => []
  | some _, [] => [replacement]
  | pending, byte :: rest =>
    let (characters, next) := pending.elim (beginCharacter byte.toNat) (Pending.feed · byte.toNat)
    characters ++ lossyFrom next rest

-- Bytes read as UTF-8, with one mark for each beginning of a character that is not gone on with.
def lossy (bytes : List UInt8) : List Char :=
  lossyFrom none bytes

end Stencil.Text
