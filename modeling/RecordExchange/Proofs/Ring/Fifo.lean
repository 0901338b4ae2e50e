import Mathlib.Algebra.GroupWithZero.Nat
import RecordExchange.Producer
import RecordExchange.Proofs.Ring.Rows

set_option autoImplicit false

/-!
A buffer is a bounded queue of records.

`Served start pushed taken r` says that some sequence of pushes and takes led from `start` to `r`,
with the payloads pushed and the payloads taken in their order. Whatever the sequence, what was
taken is the beginning of what was pushed, and the buffer answers every question as a queue of the
rest would (`BoundedFifo`).
-/

namespace RecordExchange.Ring

/-- A buffer after pushes of records that fit and takes of rows that are there. Producers push only
what a length word can describe. -/
inductive Served (start : Ring) : List Record → List Record → Ring → Prop where
  | start : Served start [] [] start
  | push {pushed taken : List Record} {r : Ring} (payload : Record)
      (before : Served start pushed taken r) (fits : r.fits payload.length = true)
      (describable : payload.length ≤ LengthWord.maxLength) :
      Served start (pushed ++ [payload]) taken (r.push payload).1
  | take {pushed taken : List Record} {r : Ring} (before : Served start pushed taken r)
      (ready : 0 < r.rows) :
      Served start pushed (taken ++ [r.takeRecord.1]) r.takeRecord.2

/-- The buffer stands for a queue of records that is bounded by its number of bytes. -/
structure BoundedFifo (capacity : Nat) (queued : List Record) (r : Ring) : Prop where
  rows : r.rows = queued.length
  used : r.used = (queued.map fun payload => LengthWord.size + payload.length).sum
  bounded : r.used ≤ capacity
  read_lt : r.read < capacity
  write_lt : r.write < capacity
  /-- A record fits when that many bytes are free. -/
  fits : ∀ n, r.fits n = true ↔ LengthWord.size + n ≤ capacity - r.used
  /-- A push reports whether the buffer was empty. -/
  wakes : ∀ payload, (r.push payload).2 = true ↔ queued = []
  /-- A take brings the oldest record. -/
  takes : 0 < r.rows → queued.head? = some r.takeRecord.1
  /-- After a take the count tells a full buffer from an empty one. -/
  drained : 0 < r.rows →
    (r.takeRecord.2.count = .empty ↔ r.takeRecord.2.read = r.takeRecord.2.write)
  /-- The count is a signed 32-bit word, and reads back as it was stored. -/
  word : r.count.toWord < 0x80000000 ∧ TupleCount.ofWord r.count.toWord = r.count

theorem rowsBytes_length_eq_sum (rows : List Record) :
    (rowsBytes rows).length = (rows.map fun payload => LengthWord.size + payload.length).sum := by
  induction rows with
  | nil => rfl
  | cons payload rows ih =>
    rw [rowsBytes_cons, List.length_append, rowBytes_length, List.map_cons, List.sum_cons, ih]

section Runs

-- comparing buffers must not run through their cells
attribute [local irreducible] Ring.storeFrom Ring.fetchFrom

theorem Served.queues {start r : Ring} {pushed taken : List Record} (begin : start.Queues [])
    (served : Served start pushed taken r) :
    r.capacity = start.capacity ∧ ∃ queued, pushed = taken ++ queued ∧ r.Queues queued := by
  induction served with
  | start => exact ⟨rfl, [], rfl, begin⟩
  | push payload before fits describable ih =>
    obtain ⟨cells, queued, order, queues⟩ := ih
    refine ⟨?_, queued ++ [payload], ?_, queues.push fits describable⟩
    · rw [← cells]
      exact put_put_capacity _ (LengthWord.encode payload.length) payload
    · rw [order, List.append_assoc]
  | take before ready ih =>
    obtain ⟨cells, queued, order, queues⟩ := ih
    cases queued with
    | nil =>
      rw [queues.rows_eq] at ready
      exact absurd ready (Nat.lt_irrefl 0)
    | cons payload rest =>
      refine ⟨cells, rest, ?_, queues.takeRecord_snd⟩
      rw [order, queues.takeRecord_fst, List.append_assoc, List.singleton_append]

/-- Rows that are queued make the buffer the queue of them. The bound keeps the count within its
word, as a row takes at least four bytes. -/
theorem Queues.boundedFifo {r : Ring} {queued : List Record} (queues : r.Queues queued)
    (upper : r.capacity < 2 * Word.values32) : BoundedFifo r.capacity queued r := by
  have size := queues.used_eq
  have room := queues.holds.fits
  have least := size_mul_length_le queued
  refine ⟨queues.rows_eq, ?_, by omega, queues.holds.read_lt, queues.holds.write_lt, ?_,
    queues.push_wakes_iff, ?_, ?_, ?_⟩
  · rw [size, rowsBytes_length_eq_sum]
  · intro n
    rw [queues.fits_iff, size]
    simp only [LengthWord.size]
    omega
  · intro ready
    cases queued with
    | nil => rw [queues.rows_eq] at ready; exact absurd ready (Nat.lt_irrefl 0)
    | cons payload rest => rw [queues.takeRecord_fst, List.head?_cons]
  · intro ready
    cases queued with
    | nil => rw [queues.rows_eq] at ready; exact absurd ready (Nat.lt_irrefl 0)
    | cons payload rest =>
      apply queues.takeRecord_snd.empty_iff_cursors_meet
      rw [rowsBytes_cons, List.length_append, rowBytes_length, LengthWord.size] at room
      change (rowsBytes rest).length < r.capacity
      omega
  · rw [queues.count, TupleCount.ofWord_toWord_ofRows]
    simp only [LengthWord.size, Word.values32] at least upper
    refine ⟨?_, rfl⟩
    cases counted : queued.length with
    | zero => decide
    | succ n =>
      rw [counted] at least
      change ((n + 1 : Nat) : Int) < 0x80000000
      omega

/-- The record that a new buffer gives back is as much of the one that was pushed as its length word
describes. -/
theorem takeRecord_push_fresh (cells : Array UInt8) (payload : Record)
    (room : LengthWord.size + payload.length ≤ cells.size) :
    ((fresh cells).push payload).1.takeRecord.1 =
      payload.take (payload.length % Word.values32) := by
  have empty : (fresh cells).Holds [] := by
    refine (holds_nil_iff _).mpr ⟨?_, rfl⟩
    rw [LengthWord.size] at room
    change 0 < cells.size
    omega
  have word : ((fresh cells).put (LengthWord.encode payload.length)).Holds
      ([] ++ LengthWord.encode payload.length) :=
    empty.put (Nat.le_trans (Nat.le_add_right _ _) room)
  have row : ((fresh cells).push payload).1.Holds (LengthWord.encode payload.length ++ payload) :=
    (holds_withCount _ _ _).mpr (word.put (by rw [put_capacity]; exact room))
  obtain ⟨length, rest⟩ := row.readLength_mod
  generalize ((fresh cells).push payload).1 = r at length rest ⊢
  have short : (payload.take (payload.length % Word.values32)).length =
      payload.length % Word.values32 :=
    List.length_take_of_le (Nat.mod_le _ _)
  have split := List.take_append_drop (payload.length % Word.values32) payload
  have taken := Holds.get_fst (r := r.readLength.2) (split.symm ▸ rest)
  rw [short] at taken
  change (r.readLength.2.get r.readLength.1).1 = _
  rw [length, taken]

/-- A payload that is one byte too long for its length word is lost, in a buffer that it fills. -/
theorem push_overlong {cells : Array UInt8} {payload : Record}
    (capacity : cells.size = LengthWord.size + Word.values32)
    (length : payload.length = Word.values32) :
    LengthWord.size < cells.size ∧ cells.size < 2 * Word.values32 ∧
      (fresh cells).fits payload.length = true ∧ ((fresh cells).push payload).1.rows = 1 ∧
      ((fresh cells).push payload).1.takeRecord.1 = [] ∧ payload ≠ [] ∧
      LengthWord.check payload.length =
        .error (.recordTooLarge Word.values32 LengthWord.maxLength) := by
  have room : LengthWord.size + payload.length ≤ cells.size := by
    exact Nat.le_of_eq ((congrArg _ length).trans capacity.symm)
  have taken := takeRecord_push_fresh cells payload room
  rw [length, Nat.mod_self, List.take_zero] at taken
  refine ⟨?_, ?_, decide_eq_true room, rfl, taken, ?_, ?_⟩
  · rw [capacity]
    decide
  · rw [capacity]
    decide
  · intro none
    rw [none] at length
    exact absurd length (by decide)
  · rw [length]
    rfl

end Runs

/-- Over any sequence of pushes and takes, on a new buffer of at least five and less than 2^33
bytes, the payloads taken are the first ones pushed, and the buffer is a bounded queue of the
others. -/
theorem served_boundedFifo (cells : Array UInt8) (pushed taken : List Record) (r : Ring)
    (lower : LengthWord.size < cells.size) (upper : cells.size < 2 * Word.values32)
    (served : Served (fresh cells) pushed taken r) :
    ∃ queued, pushed = taken ++ queued ∧ BoundedFifo cells.size queued r := by
  have begin : (fresh cells).Queues [] := fresh_queues cells (Nat.zero_lt_of_lt lower)
  obtain ⟨capacity, queued, order, queues⟩ := served.queues begin
  have same : r.capacity = cells.size := capacity
  rw [← same] at upper ⊢
  exact ⟨queued, order, queues.boundedFifo upper⟩

/-- A payload of 2^32 bytes fits a buffer of 2^32 + 4, but no length word describes it: the record
that is taken is empty. Producers refuse such a payload. -/
theorem push_loses_overlong :
    let cells := Array.replicate (LengthWord.size + Word.values32) (0 : UInt8)
    let payload := List.replicate Word.values32 (0 : UInt8)
    LengthWord.size < cells.size ∧ cells.size < 2 * Word.values32 ∧
      (fresh cells).fits payload.length = true ∧ ((fresh cells).push payload).1.rows = 1 ∧
      ((fresh cells).push payload).1.takeRecord.1 = [] ∧ payload ≠ [] ∧
      LengthWord.check payload.length =
        .error (.recordTooLarge Word.values32 LengthWord.maxLength) :=
  push_overlong Array.size_replicate List.length_replicate

/-- The second record begins two cells before the end: its length word is cut. -/
theorem served_boundedFifo_wrapped :
    Served (fresh (Array.replicate 9 255)) [[1, 2, 3], [4, 5]] [[1, 2, 3]]
        ⟨#[0, 0, 4, 5, 1, 2, 3, 2, 0], 7, 4, .rows 1⟩ ∧
      ∃ queued, [[1, 2, 3], [4, 5]] = [[1, 2, 3]] ++ queued ∧
        BoundedFifo 9 queued ⟨#[0, 0, 4, 5, 1, 2, 3, 2, 0], 7, 4, .rows 1⟩ := by
  have first : Served (fresh (Array.replicate 9 255)) [[1, 2, 3]] []
      ⟨#[3, 0, 0, 0, 1, 2, 3, 255, 255], 0, 7, .rows 1⟩ :=
    Served.push [1, 2, 3] .start (by decide) (by decide)
  have second : Served (fresh (Array.replicate 9 255)) [[1, 2, 3]] [[1, 2, 3]]
      ⟨#[3, 0, 0, 0, 1, 2, 3, 255, 255], 7, 7, .empty⟩ :=
    Served.take first (by decide)
  have third : Served (fresh (Array.replicate 9 255)) [[1, 2, 3], [4, 5]] [[1, 2, 3]]
      ⟨#[0, 0, 4, 5, 1, 2, 3, 2, 0], 7, 4, .rows 1⟩ :=
    Served.push [4, 5] second (by decide) (by decide)
  exact ⟨third, served_boundedFifo (Array.replicate 9 255) _ _ _ (by decide) (by decide) third⟩

end RecordExchange.Ring
