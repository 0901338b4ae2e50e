import RecordExchange.Word

set_option autoImplicit false

/-!
Records and the length word that precedes each of them in a buffer.

A record is any sequence of bytes shorter than 2^32. Its length travels in front of it as four
bytes, least significant first.
-/

namespace RecordExchange

/-- The payload a producer hands to one consumer. -/
abbrev Record := List UInt8

namespace LengthWord

def size : Nat := 4

def maxLength : Nat := Word.values32 - 1

/-- The four bytes of `n`, least significant first; what lies above 32 bits is cut off. -/
def encode (n : Nat) : List UInt8 :=
  [UInt8.ofNat n, UInt8.ofNat (n / 0x100), UInt8.ofNat (n / 0x10000), UInt8.ofNat (n / 0x1000000)]

def decode : List UInt8 → Nat
  | [] => 0
  | b :: rest => b.toNat + Word.values8 * decode rest

@[simp] theorem encode_length (n : Nat) : (encode n).length = size := rfl

theorem decode_encode_mod (n : Nat) : decode (encode n) = n % Word.values32 := by
  simp only [encode, decode, Word.values8, Word.values32, UInt8.toNat_ofNat']
  omega

theorem decode_encode (n : Nat) (fits : n ≤ maxLength) : decode (encode n) = n := by
  have short : n < Word.values32 := Nat.lt_of_le_pred (by decide) fits
  rw [decode_encode_mod, Nat.mod_eq_of_lt short]

end LengthWord

end RecordExchange
