import RecordExchange.Proofs.Ring.Rows
import RecordExchange.Ring.LongRecord

set_option autoImplicit false

/-!
What is on its way through a buffer.

Between two steps of its parties a buffer carries complete rows, or one chunk of a long record, or
the reader's request for the next chunk. In each case some first bytes of the record in front may
have gone before, and their number is all that the next step of either party depends on. The
statements below say how the steps of the two parties lead from one case to another.
-/

namespace RecordExchange

/-- What a buffer carries. The first `skip` bytes of the record in front went before. -/
inductive Transit where
  /-- Complete rows, the first of them without the bytes that went before. -/
  | rows (skip : Nat) (records : List Record)
  /-- A chunk of a long record that others will follow. -/
  | chunk (skip : Nat) (record : Record)
  /-- Nothing but the reader's request for the rest of a long record. -/
  | request (skip : Nat) (record : Record)

namespace Transit

/-- Bytes of the record in front that went before. -/
def skip : Transit → Nat
  | .rows skip _ => skip
  | .chunk skip _ => skip
  | .request skip _ => skip

def records : Transit → List Record
  | .rows _ records => records
  | .chunk _ record => [record]
  | .request _ record => [record]

/-- The record whose last bytes the producer still keeps. -/
def unfinished : Transit → List Record
  | .rows _ _ => []
  | .chunk _ record => [record]
  | .request _ record => [record]

def cut (skip : Nat) : List Record → List Record
  | [] => []
  | first :: rest => first.drop skip :: rest

@[simp] theorem cut_zero (records : List Record) : cut 0 records = records := by
  cases records <;> rfl

end Transit

namespace Ring

attribute [local irreducible] storeFrom fetchFrom

/-- Complete rows are on their way. -/
structure CarriesRows (r : Ring) (skip : Nat) (records : List Record) : Prop where
  room : LengthWord.size < r.capacity
  queues : r.Queues (Transit.cut skip records)
  short : ∀ record ∈ records, record.length ≤ LengthWord.maxLength
  begun : 0 < skip → ∃ first rest, records = first :: rest ∧ skip < first.length

/-- A chunk that is not the last one is on its way. -/
structure CarriesChunk (r : Ring) (skip : Nat) (record : Record) : Prop where
  room : LengthWord.size < r.capacity
  count : r.count = .rows 1
  holds : r.Holds (LengthWord.encode (record.length - skip) ++ (record.drop skip).take r.chunk)
  short : record.length ≤ LengthWord.maxLength
  more : r.chunk < record.length - skip

/-- The reader's request is on its way: the number of bytes it has is left in the first cells. -/
structure CarriesRequest (r : Ring) (skip : Nat) (record : Record) : Prop where
  room : LengthWord.size < r.capacity
  count : r.count = .longRecord
  holds : r.Holds []
  word : LengthWord.decode (fetchFrom r.bytes 0 LengthWord.size) = skip
  short : record.length ≤ LengthWord.maxLength
  long : r.chunk < record.length
  begun : 0 < skip
  inside : skip < record.length

/-- What the buffer carries. -/
def Carries (r : Ring) : Transit → Prop
  | .rows skip records => r.CarriesRows skip records
  | .chunk skip record => r.CarriesChunk skip record
  | .request skip record => r.CarriesRequest skip record

theorem Carries.room {r : Ring} {t : Transit} (carries : r.Carries t) :
    LengthWord.size < r.capacity := by
  cases t with
  | rows skip records => exact CarriesRows.room carries
  | chunk skip record => exact CarriesChunk.room carries
  | request skip record => exact CarriesRequest.room carries

theorem chunk_pos {r : Ring} (room : LengthWord.size < r.capacity) : 0 < r.chunk := by
  rw [chunk]
  omega

theorem chunk_congr {r s : Ring} (same : r.capacity = s.capacity) : r.chunk = s.chunk := by
  rw [chunk, chunk, same]

theorem carriesRows_nil {r : Ring} (room : LengthWord.size < r.capacity) (none : r.count = .empty)
    (inside : r.read < r.capacity) (met : r.read = r.write) : r.CarriesRows 0 [] :=
  ⟨room, ⟨(holds_nil_iff r).mpr ⟨inside, met⟩, none, List.forall_mem_nil _⟩, List.forall_mem_nil _,
    fun positive => absurd positive (Nat.lt_irrefl 0)⟩

/-- A length word and as many bytes of a payload, written one behind the other. -/
theorem Holds.put_part {r : Ring} {xs : List UInt8} (held : r.Holds xs) (n : Nat)
    (part : List UInt8) (room : xs.length + (LengthWord.size + part.length) ≤ r.capacity) :
    ((r.put (LengthWord.encode n)).put part).Holds (xs ++ (LengthWord.encode n ++ part)) := by
  have word : (r.put (LengthWord.encode n)).Holds (xs ++ LengthWord.encode n) :=
    held.put (by rw [LengthWord.encode_length]; omega)
  rw [← List.append_assoc]
  apply word.put
  rw [List.length_append, LengthWord.encode_length, put_capacity]
  omega

section Rows

variable {r : Ring} {skip : Nat} {records : List Record} {record : Record}

/-- Nothing of a record was sent before an empty buffer. -/
theorem CarriesRows.skip_eq_zero (carries : r.CarriesRows skip []) : skip = 0 := by
  rcases Nat.eq_zero_or_pos skip with zero | positive
  · exact zero
  · obtain ⟨first, rest, impossible, _⟩ := carries.begun positive
    cases impossible

theorem CarriesRows.push (carries : r.CarriesRows skip records)
    (fits : r.fits record.length = true) (short : record.length ≤ LengthWord.maxLength) :
    (r.push record).1.CarriesRows skip (records ++ [record]) := by
  have pushed := carries.queues.push fits short
  have capacity : (r.push record).1.capacity = r.capacity := put_put_capacity r _ record
  refine ⟨by rw [capacity]; exact carries.room, ?_, ?_, ?_⟩
  · cases records with
    | cons first rest => exact pushed
    | nil =>
      -- nothing of a record was sent before an empty buffer
      rw [carries.skip_eq_zero, Transit.cut_zero]
      exact pushed
  · intro other member
    rcases List.mem_append.mp member with old | new
    · exact carries.short other old
    · rw [List.mem_singleton.mp new]
      exact short
  · intro positive
    obtain ⟨first, rest, split, inside⟩ := carries.begun positive
    exact ⟨first, rest ++ [record], by rw [split, List.cons_append], inside⟩

/-- The row in front is short, and its length word says how much of the record it holds. -/
theorem CarriesRows.readLength (carries : r.CarriesRows skip (record :: records)) :
    r.readLength.1 = record.length - skip ∧ record.length - skip ≤ r.chunk ∧
      r.readLength.2.Holds (record.drop skip ++ rowsBytes records) := by
  obtain ⟨length, rest⟩ := carries.queues.readLength
  have bound := carries.queues.holds.fits
  simp only [Transit.cut, rowsBytes_cons, List.length_append, rowBytes_length,
    List.length_drop] at bound
  rw [List.length_drop] at length
  refine ⟨length, ?_, rest⟩
  rw [chunk]
  omega

theorem CarriesRows.takeRow {read : Ring} (carries : r.CarriesRows skip (record :: records))
    (capacity : read.capacity = r.capacity) (count : read.count = r.count)
    (holds : read.Holds (rowsBytes records)) : read.takeRow.CarriesRows 0 records := by
  refine ⟨?_, ?_, fun other member => carries.short other (List.mem_cons_of_mem _ member),
    fun positive => absurd positive (Nat.lt_irrefl 0)⟩
  · change LengthWord.size < read.capacity
    rw [capacity]
    exact carries.room
  · rw [Transit.cut_zero]
    exact carries.queues.takeRow count holds

/-- What is asserted of the buffer then holds: the row left room for the others. -/
theorem CarriesRows.takeRow_isSettled {read : Ring}
    (carries : r.CarriesRows skip (record :: records)) (capacity : read.capacity = r.capacity)
    (count : read.count = r.count) (holds : read.Holds (rowsBytes records)) :
    read.takeRow.isSettled = true := by
  have bound := carries.queues.holds.fits
  simp only [Transit.cut, rowsBytes_cons, List.length_append, rowBytes_length,
    LengthWord.size] at bound
  have queues := (carries.takeRow capacity count holds).queues
  rw [Transit.cut_zero] at queues
  apply decide_eq_true
  apply queues.empty_iff_cursors_meet
  change (rowsBytes records).length < read.capacity
  rw [capacity]
  omega

theorem CarriesRows.rows_eq_zero_iff (carries : r.CarriesRows skip records) :
    r.rows = 0 ↔ records = [] := by
  rw [carries.queues.rows_eq, List.length_eq_zero_iff]
  cases records with
  | nil => exact Iff.rfl
  | cons first rest => simp only [Transit.cut, reduceCtorEq]

/-- What does not fit into an empty buffer never does. -/
theorem CarriesRows.isLong_of_not_fits (carries : r.CarriesRows 0 [])
    (full : ¬ r.fits record.length = true) : r.chunk < record.length := by
  have room := carries.room
  rw [carries.queues.fits_iff, Transit.cut_zero, rowsBytes_nil, List.length_nil] at full
  rw [chunk]
  omega

end Rows

section LongRecord

variable {r : Ring} {skip : Nat} {record : Record}

/-- A chunk that others will follow fills the buffer. -/
theorem CarriesChunk.not_fits (carries : r.CarriesChunk skip record) :
    r.fits record.length = false := by
  have room := carries.room
  have more := carries.more
  have rows : r.rows = 1 := rows_of_count carries.count
  have size : (LengthWord.encode (record.length - skip) ++
      (record.drop skip).take r.chunk).length = r.capacity := by
    rw [List.length_append, LengthWord.encode_length, List.length_take, List.length_drop,
      Nat.min_eq_left (Nat.le_of_lt more), chunk]
    omega
  have split := carries.holds.free_add_length (by
    rw [rows]
    exact iff_of_false Nat.one_ne_zero (List.append_ne_nil_of_left_ne_nil (List.cons_ne_nil _ _) _))
  rw [fits, decide_eq_false_iff_not]
  rw [LengthWord.size] at *
  omega

/-- A record that was begun as a long one does not fit, even while the buffer is empty. -/
theorem CarriesRequest.not_fits (carries : r.CarriesRequest skip record) :
    r.fits record.length = false := by
  have long := carries.long
  rw [chunk] at long
  simp only [fits, free, rows_of_longRecord carries.count, ↓reduceIte, decide_eq_false_iff_not]
  omega

end LongRecord

end Ring

end RecordExchange
