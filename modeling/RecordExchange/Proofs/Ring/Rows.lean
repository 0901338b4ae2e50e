import RecordExchange.Proofs.Ring.Unread

set_option autoImplicit false

/-!
Complete rows in a buffer.

A row is the length word of a payload and the payload. `Queues r rows` says that the unread bytes
are these rows one behind the other and that the count agrees; pushing adds a row at the end, and
reading a length, its payload and counting the row off takes the first one.
-/

namespace RecordExchange

def rowBytes (payload : Record) : List UInt8 := LengthWord.encode payload.length ++ payload

def rowsBytes (rows : List Record) : List UInt8 := rows.flatMap rowBytes

@[simp] theorem rowsBytes_nil : rowsBytes [] = [] := rfl

@[simp] theorem rowsBytes_cons (payload : Record) (rows : List Record) :
    rowsBytes (payload :: rows) = rowBytes payload ++ rowsBytes rows := rfl

theorem rowsBytes_append (first second : List Record) :
    rowsBytes (first ++ second) = rowsBytes first ++ rowsBytes second :=
  List.flatMap_append

@[simp] theorem rowBytes_length (payload : Record) :
    (rowBytes payload).length = LengthWord.size + payload.length := by
  rw [rowBytes, List.length_append, LengthWord.encode_length]

theorem rowsBytes_eq_nil_iff (rows : List Record) : rowsBytes rows = [] ↔ rows = [] := by
  constructor
  · intro none
    cases rows with
    | nil => rfl
    | cons payload rows =>
      have length := congrArg List.length none
      rw [rowsBytes_cons, List.length_append, rowBytes_length, LengthWord.size] at length
      exact absurd length (by simp only [List.length_nil]; omega)
  · rintro rfl
    rfl

theorem size_mul_length_le (rows : List Record) :
    LengthWord.size * rows.length ≤ (rowsBytes rows).length := by
  induction rows with
  | nil => exact Nat.le_refl 0
  | cons payload rows ih =>
    rw [rowsBytes_cons, List.length_append, rowBytes_length, List.length_cons, Nat.mul_succ]
    omega

namespace TupleCount

def ofRows : Nat → TupleCount
  | 0 => .empty
  | n + 1 => .rows (n + 1)

@[simp] theorem ready_ofRows (n : Nat) : (ofRows n).ready = n := by
  cases n <;> rfl

theorem ofRows_eq_empty_iff (n : Nat) : ofRows n = .empty ↔ n = 0 := by
  cases n with
  | zero => simp only [ofRows]
  | succ n => simp only [ofRows, reduceCtorEq, Nat.succ_ne_zero]

theorem ofRows_ne_longRecord (n : Nat) : ofRows n ≠ .longRecord := by
  cases n <;> simp only [ofRows, ne_eq, reduceCtorEq, not_false_eq_true]

theorem ofWord_toWord_ofRows (n : Nat) : ofWord (ofRows n).toWord = ofRows n := by
  cases n with
  | zero => rfl
  | succ n =>
    have positive : (0 : Int) < ((n + 1 : Nat) : Int) := by omega
    have unmarked : ¬ ((n + 1 : Nat) : Int) = longRecordMark := by
      rw [longRecordMark]
      omega
    simp only [ofRows, toWord, ofWord, positive, unmarked, ↓reduceIte, Int.toNat_natCast]

end TupleCount

namespace Ring

-- comparing buffers must not run through their cells
attribute [local irreducible] storeFrom fetchFrom

theorem Holds.readLength_mod {r : Ring} {n : Nat} {xs : List UInt8}
    (held : r.Holds (LengthWord.encode n ++ xs)) :
    r.readLength.1 = n % Word.values32 ∧ r.readLength.2.Holds xs := by
  have front : (r.get LengthWord.size).1 = LengthWord.encode n := held.get_fst
  refine ⟨?_, held.get_snd⟩
  change LengthWord.decode (r.get LengthWord.size).1 = n % Word.values32
  rw [front, LengthWord.decode_encode_mod]

theorem Holds.readLength {r : Ring} {n : Nat} {xs : List UInt8}
    (held : r.Holds (LengthWord.encode n ++ xs)) (short : n ≤ LengthWord.maxLength) :
    r.readLength.1 = n ∧ r.readLength.2.Holds xs := by
  have below : n < Word.values32 := Nat.lt_of_le_pred (by decide) short
  have read := held.readLength_mod
  rw [Nat.mod_eq_of_lt below] at read
  exact read

@[simp] theorem readLength_chunk (r : Ring) : r.readLength.2.chunk = r.chunk := rfl

/-- The unread bytes are these rows, and so many are counted. -/
structure Queues (r : Ring) (rows : List Record) : Prop where
  holds : r.Holds (rowsBytes rows)
  count : r.count = .ofRows rows.length
  short : ∀ row ∈ rows, row.length ≤ LengthWord.maxLength

theorem fresh_queues (bytes : Array UInt8) (cells : 0 < bytes.size) : (fresh bytes).Queues [] :=
  ⟨(holds_nil_iff _).mpr ⟨cells, rfl⟩, rfl, List.forall_mem_nil _⟩

/-- Takes the first row out: its length word, its payload, and its count. -/
def takeRecord (r : Ring) : Record × Ring :=
  let (length, r) := r.readLength
  let (payload, r) := r.readPayload length
  (payload, r.takeRow)

namespace Queues

variable {r : Ring} {rows : List Record} {payload : Record}

theorem rows_eq (queues : r.Queues rows) : r.rows = rows.length := by
  rw [Ring.rows, queues.count, TupleCount.ready_ofRows]

theorem rows_eq_zero_iff (queues : r.Queues rows) : r.rows = 0 ↔ rowsBytes rows = [] := by
  rw [queues.rows_eq, rowsBytes_eq_nil_iff, List.length_eq_zero_iff]

theorem free_add_length (queues : r.Queues rows) :
    r.free + (rowsBytes rows).length = r.capacity :=
  queues.holds.free_add_length queues.rows_eq_zero_iff

theorem used_eq (queues : r.Queues rows) : r.used = (rowsBytes rows).length := by
  have split := queues.free_add_length
  rw [used]
  omega

theorem fits_iff (queues : r.Queues rows) (n : Nat) :
    r.fits n = true ↔ (rowsBytes rows).length + (LengthWord.size + n) ≤ r.capacity := by
  have split := queues.free_add_length
  rw [fits, decide_eq_true_iff]
  omega

theorem push (queues : r.Queues rows) (fits : r.fits payload.length = true)
    (short : payload.length ≤ LengthWord.maxLength) :
    (r.push payload).1.Queues (rows ++ [payload]) := by
  have room := (queues.fits_iff payload.length).mp fits
  have word : (r.put (LengthWord.encode payload.length)).Holds
      (rowsBytes rows ++ LengthWord.encode payload.length) :=
    queues.holds.put (by rw [LengthWord.encode_length]; omega)
  have whole : ((r.put (LengthWord.encode payload.length)).put payload).Holds
      (rowsBytes (rows ++ [payload])) := by
    rw [rowsBytes_append, rowsBytes_cons, rowsBytes_nil, List.append_nil, rowBytes,
      ← List.append_assoc]
    apply word.put
    rw [List.length_append, LengthWord.encode_length, put_capacity]
    omega
  refine ⟨(holds_withCount _ _ _).mpr whole, ?_, ?_⟩
  · change TupleCount.rows (r.rows + 1) = _
    rw [queues.rows_eq, List.length_append, List.length_singleton]
    rfl
  · intro row member
    rcases List.mem_append.mp member with old | new
    · exact queues.short row old
    · rw [List.mem_singleton.mp new]
      exact short

/-- Pushing asks for a wake-up exactly when nothing was queued. -/
theorem push_wakes_iff (queues : r.Queues rows) (payload : Record) :
    (r.push payload).2 = true ↔ rows = [] := by
  change (r.rows == 0) = true ↔ _
  rw [beq_iff_eq, queues.rows_eq, List.length_eq_zero_iff]

theorem readLength (queues : r.Queues (payload :: rows)) :
    r.readLength.1 = payload.length ∧ r.readLength.2.Holds (payload ++ rowsBytes rows) := by
  apply Holds.readLength
  · rw [← List.append_assoc]
    exact queues.holds
  · exact queues.short payload (List.mem_cons_self ..)

/-- Once its bytes are taken, counting the first row off leaves the others. -/
theorem takeRow {first : Record} {read : Ring} (queues : r.Queues (first :: rows))
    (count : read.count = r.count) (holds : read.Holds (rowsBytes rows)) :
    read.takeRow.Queues rows := by
  refine ⟨(holds_withCount _ _ _).mpr holds, ?_, fun row member =>
    queues.short row (List.mem_cons_of_mem _ member)⟩
  have counted : read.rows = rows.length + 1 := by
    rw [Ring.rows, count, queues.count, TupleCount.ready_ofRows, List.length_cons]
  change (if 1 < read.rows then TupleCount.rows (read.rows - 1) else TupleCount.empty) = _
  rw [counted]
  cases rows with
  | nil => rfl
  | cons second rest => simp only [List.length_cons, Nat.lt_add_left_iff_pos, Nat.zero_lt_succ,
      ↓reduceIte, Nat.add_sub_cancel]; rfl

theorem takeRecord_fst (queues : r.Queues (payload :: rows)) : r.takeRecord.1 = payload := by
  obtain ⟨length, rest⟩ := queues.readLength
  change (r.readLength.2.get r.readLength.1).1 = payload
  rw [length]
  exact rest.get_fst

theorem takeRecord_snd (queues : r.Queues (payload :: rows)) : r.takeRecord.2.Queues rows := by
  obtain ⟨length, rest⟩ := queues.readLength
  apply queues.takeRow
  · rfl
  · change (r.readLength.2.get r.readLength.1).2.Holds _
    rw [length]
    exact rest.get_snd

/-- Short of a full buffer the cursors meet exactly when nothing is queued. -/
theorem empty_iff_cursors_meet (queues : r.Queues rows)
    (partly : (rowsBytes rows).length < r.capacity) :
    r.count = .empty ↔ r.read = r.write := by
  rw [queues.count, TupleCount.ofRows_eq_empty_iff, List.length_eq_zero_iff,
    ← rowsBytes_eq_nil_iff]
  have inside := queues.holds.read_lt
  have written := queues.holds.write_eq
  constructor
  · intro none
    rw [none, List.length_nil, Nat.add_zero, Nat.mod_eq_of_lt inside] at written
    exact written.symm
  · intro met
    apply List.length_eq_zero_iff.mp
    apply @cell_injective r.read _ _ _ partly (by omega)
    rw [← written, ← met, Nat.add_zero, Nat.mod_eq_of_lt inside]

end Queues

end Ring

end RecordExchange
