import Mathlib.Data.UInt
import Mathlib.Data.List.Basic
import RecordExchange.Text.Utf8

set_option autoImplicit false

/-!
Reading back what was written as UTF-8.

A character takes one to four bytes, the first of which says how many; so the bytes of a text are
read back as the text, and none of them is zero unless the text holds a NUL.
-/

namespace RecordExchange.Text

section Bytes

variable {v : Nat} {low high : UInt8}

theorem toNat_byte (small : v < 0x100) : (UInt8.ofNat v).toNat = v := by
  rw [UInt8.toNat_ofNat', Nat.mod_eq_of_lt small]

theorem byte_within (small : v < 0x100) (inside : low.toNat ≤ v ∧ v ≤ high.toNat) :
    (decide (low ≤ UInt8.ofNat v) && decide (UInt8.ofNat v ≤ high)) = true := by
  rw [Bool.and_eq_true, decide_eq_true_iff, decide_eq_true_iff, UInt8.le_iff_toNat_le,
    UInt8.le_iff_toNat_le, toNat_byte small]
  exact inside

theorem byte_outside (small : v < 0x100) (outside : v < low.toNat ∨ high.toNat < v) :
    (decide (low ≤ UInt8.ofNat v) && decide (UInt8.ofNat v ≤ high)) = false := by
  rw [Bool.and_eq_false_iff, decide_eq_false_iff_not, decide_eq_false_iff_not,
    UInt8.le_iff_toNat_le, UInt8.le_iff_toNat_le, toNat_byte small, Nat.not_le, Nat.not_le]
  exact outside

theorem byte_not_ascii (large : 0x80 ≤ v) (small : v < 0x100) : ¬ UInt8.ofNat v < 0x80 := by
  rw [UInt8.lt_iff_toNat_lt, toNat_byte small]
  exact Nat.not_lt.mpr large

theorem byte_eq_iff (small : v < 0x100) (b : UInt8) : UInt8.ofNat v = b ↔ v = b.toNat := by
  rw [← UInt8.toNat_inj, toNat_byte small]

theorem isContinuation_tail (v : Nat) : isContinuation (UInt8.ofNat (v % 0x40 + 0x80)) = true := by
  apply byte_within (by omega)
  change 0x80 ≤ v % 0x40 + 0x80 ∧ v % 0x40 + 0x80 ≤ 0xbf
  omega

theorem payloadBits_tail (v : Nat) : payloadBits (UInt8.ofNat (v % 0x40 + 0x80)) = v % 0x40 := by
  rw [payloadBits, toNat_byte (by omega)]
  omega

/-- The second byte of a wide character may be any that continues one, except behind the four first
bytes that bound it. -/
theorem isSecond_tail {first second : Nat} (small : first < 0x100) (tail : second < 0x40)
    (short : first = 0xe0 → 0x20 ≤ second) (surrogate : first = 0xed → second < 0x20)
    (wide : first = 0xf0 → 0x10 ≤ second) (space : first = 0xf4 → second < 0x10) :
    isSecond (UInt8.ofNat first) (UInt8.ofNat (second + 0x80)) = true := by
  have byte : second + 0x80 < 0x100 := by omega
  unfold isSecond
  split_ifs with three low four high
  · have bound := short ((byte_eq_iff small _).mp three)
    exact byte_within byte (by change 0xa0 ≤ second + 0x80 ∧ second + 0x80 ≤ 0xbf; omega)
  · have bound := surrogate ((byte_eq_iff small _).mp low)
    exact byte_within byte (by change 0x80 ≤ second + 0x80 ∧ second + 0x80 ≤ 0x9f; omega)
  · have bound := wide ((byte_eq_iff small _).mp four)
    exact byte_within byte (by change 0x90 ≤ second + 0x80 ∧ second + 0x80 ≤ 0xbf; omega)
  · have bound := space ((byte_eq_iff small _).mp high)
    exact byte_within byte (by change 0x80 ≤ second + 0x80 ∧ second + 0x80 ≤ 0x8f; omega)
  · rw [← Nat.mod_eq_of_lt tail]
    exact isContinuation_tail second

theorem utf8Step_one (small : v < 0x80) (rest : List UInt8) :
    utf8Step (UInt8.ofNat v) rest = .char (Char.ofNat v) rest := by
  have byte : (UInt8.ofNat v).toNat = v := toNat_byte (by omega)
  have ascii : UInt8.ofNat v < 0x80 := by
    rw [UInt8.lt_iff_toNat_lt, byte]
    exact small
  simp only [utf8Step, ascii, byte, ↓reduceIte]

theorem utf8Step_two (large : 0x80 ≤ v) (small : v < 0x800) (rest : List UInt8) :
    utf8Step (UInt8.ofNat (v / 64 % 0x20 + 0xc0)) (UInt8.ofNat (v % 0x40 + 0x80) :: rest) =
      .char (Char.ofNat v) rest := by
  obtain ⟨first, same⟩ : ∃ first, first = v / 64 % 0x20 + 0xc0 := ⟨_, rfl⟩
  have byte : first < 0x100 := by omega
  have more := byte_not_ascii (v := first) (by omega) byte
  have two : (decide (0xc2 ≤ UInt8.ofNat first) && decide (UInt8.ofNat first ≤ 0xdf)) = true :=
    byte_within byte (by change 0xc2 ≤ first ∧ first ≤ 0xdf; omega)
  have bits : first % 0x20 * 0x40 + v % 0x40 = v := by omega
  rw [← same]
  simp only [utf8Step, more, two, isContinuation_tail, payloadBits_tail, toNat_byte byte, bits,
    ↓reduceIte]

theorem utf8Step_three (large : 0x800 ≤ v) (small : v < 0x10000)
    (scalar : v < 0xd800 ∨ 0xdfff < v) (rest : List UInt8) :
    utf8Step (UInt8.ofNat (v / 4096 % 0x10 + 0xe0)) (UInt8.ofNat (v / 64 % 0x40 + 0x80) ::
      UInt8.ofNat (v % 0x40 + 0x80) :: rest) = .char (Char.ofNat v) rest := by
  obtain ⟨first, same⟩ : ∃ first, first = v / 4096 % 0x10 + 0xe0 := ⟨_, rfl⟩
  have byte : first < 0x100 := by omega
  have more := byte_not_ascii (v := first) (by omega) byte
  have two : (decide (0xc2 ≤ UInt8.ofNat first) && decide (UInt8.ofNat first ≤ 0xdf)) = false :=
    byte_outside byte (by change first < 0xc2 ∨ 0xdf < first; omega)
  have three : (decide (0xe0 ≤ UInt8.ofNat first) && decide (UInt8.ofNat first ≤ 0xef)) = true :=
    byte_within byte (by change 0xe0 ≤ first ∧ first ≤ 0xef; omega)
  have second : isSecond (UInt8.ofNat first) (UInt8.ofNat (v / 64 % 0x40 + 0x80)) = true :=
    isSecond_tail byte (by omega) (by omega) (by omega) (by omega) (by omega)
  have bits : first % 0x10 * 0x1000 + v / 64 % 0x40 * 0x40 + v % 0x40 = v := by omega
  rw [← same]
  simp only [utf8Step, more, two, three, second, isContinuation_tail, payloadBits_tail,
    toNat_byte byte, bits, ↓reduceIte, Bool.not_true, Bool.false_eq_true]

theorem utf8Step_four (large : 0x10000 ≤ v) (small : v < 0x110000) (rest : List UInt8) :
    utf8Step (UInt8.ofNat (v / 262144 % 8 + 0xf0)) (UInt8.ofNat (v / 4096 % 0x40 + 0x80) ::
      UInt8.ofNat (v / 64 % 0x40 + 0x80) :: UInt8.ofNat (v % 0x40 + 0x80) :: rest) =
      .char (Char.ofNat v) rest := by
  obtain ⟨first, same⟩ : ∃ first, first = v / 262144 % 8 + 0xf0 := ⟨_, rfl⟩
  have byte : first < 0x100 := by omega
  have more := byte_not_ascii (v := first) (by omega) byte
  have two : (decide (0xc2 ≤ UInt8.ofNat first) && decide (UInt8.ofNat first ≤ 0xdf)) = false :=
    byte_outside byte (by change first < 0xc2 ∨ 0xdf < first; omega)
  have three : (decide (0xe0 ≤ UInt8.ofNat first) && decide (UInt8.ofNat first ≤ 0xef)) = false :=
    byte_outside byte (by change first < 0xe0 ∨ 0xef < first; omega)
  have four : (decide (0xf0 ≤ UInt8.ofNat first) && decide (UInt8.ofNat first ≤ 0xf4)) = true :=
    byte_within byte (by change 0xf0 ≤ first ∧ first ≤ 0xf4; omega)
  have second : isSecond (UInt8.ofNat first) (UInt8.ofNat (v / 4096 % 0x40 + 0x80)) = true :=
    isSecond_tail byte (by omega) (by omega) (by omega) (by omega) (by omega)
  have bits : first % 8 * 0x40000 + v / 4096 % 0x40 * 0x1000 + v / 64 % 0x40 * 0x40 + v % 0x40 =
      v := by omega
  rw [← same]
  simp only [utf8Step, more, two, three, four, second, isContinuation_tail, payloadBits_tail,
    toNat_byte byte, bits, ↓reduceIte, Bool.not_true, Bool.false_eq_true]

end Bytes

theorem utf8Step_encodeChar (c : Char) (rest : List UInt8) :
    ∃ first tail, String.utf8EncodeChar c = first :: tail ∧
      utf8Step first (tail ++ rest) = .char c rest := by
  have same : Char.ofNat c.val.toNat = c := Char.ofNat_toNat c
  have space : c.val.toNat < 0xd800 ∨ 0xdfff < c.val.toNat ∧ c.val.toNat < 0x110000 := c.valid
  unfold String.utf8EncodeChar
  dsimp only
  split_ifs with one two three
  · exact ⟨_, _, rfl, (utf8Step_one (by omega) rest).trans (by rw [same])⟩
  · exact ⟨_, _, rfl, (utf8Step_two (by omega) (by omega) rest).trans (by rw [same])⟩
  · exact ⟨_, _, rfl,
      (utf8Step_three (by omega) (by omega) (by omega) rest).trans (by rw [same])⟩
  · exact ⟨_, _, rfl, (utf8Step_four (by omega) (by omega) rest).trans (by rw [same])⟩

theorem decodeFor_toUtf8 (chars : List Char) (fuel : Nat)
    (enough : (chars.flatMap String.utf8EncodeChar).length ≤ fuel) :
    decodeFor fuel (chars.flatMap String.utf8EncodeChar) = chars.map some := by
  induction chars generalizing fuel with
  | nil => cases fuel <;> rfl
  | cons c chars ih =>
    rw [List.flatMap_cons] at enough ⊢
    obtain ⟨first, tail, bytes, read⟩ := utf8Step_encodeChar c (chars.flatMap String.utf8EncodeChar)
    rw [bytes, List.cons_append, List.length_cons, List.length_append] at enough
    rw [bytes, List.cons_append]
    cases fuel with
    | zero => omega
    | succ fuel =>
      rw [decodeFor, read, List.map_cons]
      exact congrArg (some c :: ·) (ih fuel (by omega))

theorem ofUtf8Lossy_toUtf8 (s : String) : ofUtf8Lossy (toUtf8 s) = s := by
  have read : decodeUtf8 (toUtf8 s) = s.toList.map some :=
    decodeFor_toUtf8 s.toList _ (Nat.le_refl _)
  rw [ofUtf8Lossy, read, List.map_map]
  simp only [Function.comp_def, Option.getD_some, List.map_id', String.ofList_toList]

theorem toUtf8_length (s : String) : (toUtf8 s).length = s.utf8ByteSize := by
  have bytes : s.toByteArray = (toUtf8 s).toByteArray := by
    rw [← String.ofList_toList (s := s), String.toByteArray_ofList, String.ofList_toList]
    rfl
  rw [← String.size_toByteArray, bytes, List.size_toByteArray]

/-- Only a NUL has a zero among its bytes. -/
theorem zero_not_mem_encodeChar {c : Char} (other : c ≠ '\x00') :
    (0 : UInt8) ∉ String.utf8EncodeChar c := by
  have positive : c.val.toNat ≠ 0 := by
    intro zero
    exact other (Char.ext (UInt32.toNat_inj.mp zero))
  have byte {v : Nat} (large : 0 < v) (small : v < 0x100) : (0 : UInt8) ≠ UInt8.ofNat v := by
    intro same
    rw [eq_comm, byte_eq_iff small] at same
    exact Nat.ne_of_gt large same
  have space : c.val.toNat < 0xd800 ∨ 0xdfff < c.val.toNat ∧ c.val.toNat < 0x110000 := c.valid
  unfold String.utf8EncodeChar
  dsimp only
  split_ifs
  all_goals
    simp only [List.mem_cons, List.not_mem_nil, or_false, not_or]
    repeat' constructor
  all_goals exact byte (by omega) (by omega)

theorem zero_not_mem_toUtf8 {s : String} (clean : '\x00' ∉ s.toList) : (0 : UInt8) ∉ toUtf8 s := by
  intro zero
  obtain ⟨c, member, byte⟩ := List.mem_flatMap.mp zero
  exact zero_not_mem_encodeChar (fun same => clean (same ▸ member)) byte

end RecordExchange.Text
