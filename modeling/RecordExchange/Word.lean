set_option autoImplicit false

/-!
Machine words: how many numbers a word of 8, 32 or 64 bits tells apart.
-/

namespace RecordExchange.Word

def values8 : Nat := 0x100

def values32 : Nat := 0x100000000

def values64 : Nat := 0x10000000000000000

/-- A number that a program with checked arithmetic goes on with: it must be a 64-bit word. -/
def checked (n : Nat) : Option Nat := if n < values64 then some n else none

end RecordExchange.Word
