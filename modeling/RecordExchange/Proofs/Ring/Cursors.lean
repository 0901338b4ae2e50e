import Mathlib.Algebra.Group.Int.Defs
import Mathlib.Algebra.Group.Nat.Defs
import RecordExchange.Proofs.Ring.Transit

set_option autoImplicit false

/-!
What the count and the cursors of a buffer tell of the bytes in it.

The cursors alone do not tell a full buffer from an empty one. Whatever a buffer carries, its unread
bytes are so many rows as the count says, each behind its length word, and the free bytes are what
they leave.
-/

namespace RecordExchange

/-- A row in a buffer: the number in its length word, and the bytes behind it. Of a long record the
bytes are one chunk, and the number is what was missing before it. -/
structure Row where
  length : Nat
  bytes : List UInt8

/-- The bytes of a row in a buffer. -/
def Row.image (row : Row) : List UInt8 := LengthWord.encode row.length ++ row.bytes

def Row.images (rows : List Row) : List UInt8 := rows.flatMap Row.image

theorem Row.image_length (row : Row) :
    row.image.length = LengthWord.size + row.bytes.length := by
  rw [image, List.length_append, LengthWord.encode_length]

theorem Row.size_mul_length_le (rows : List Row) :
    LengthWord.size * rows.length ≤ (images rows).length := by
  induction rows with
  | nil => exact Nat.le_refl 0
  | cons row rows ih =>
    change _ ≤ (row.image ++ images rows).length
    rw [List.length_append, image_length, List.length_cons, Nat.mul_succ]
    omega

namespace Ring

-- comparing buffers must not run through their cells
attribute [local irreducible] storeFrom fetchFrom

/-- The unread bytes of the buffer are these rows, whose number is what its count says. -/
structure Lists (r : Ring) (rows : List Row) : Prop where
  holds : r.Holds (Row.images rows)
  count : r.count = .longRecord ∧ rows = [] ∨ r.count = .ofRows rows.length
  each : ∀ row ∈ rows, row.length ≤ LengthWord.maxLength ∧ row.bytes.length = min row.length r.chunk

/-- The count and the cursors of the buffer tell what is unread in it: they are cells of the buffer;
they meet while no row is counted, and with rows exactly if these fill the buffer; every row takes a
length word at least, so that their number fits its place; and the free bytes are those that the
unread ones leave. -/
structure Agrees (r : Ring) (rows : List Row) : Prop where
  lists : r.Lists rows
  room : LengthWord.size < r.capacity
  read_lt : r.read < r.capacity
  write_lt : r.write < r.capacity
  met : r.count = .empty ∨ r.count = .longRecord → r.read = r.write
  counted : ∀ n, r.count = .rows n → 1 ≤ n ∧ n ≤ r.capacity / 4 ∧
    (r.read = r.write ↔ (Row.images rows).length = r.capacity)
  stored : r.capacity < 2 ^ 33 → -(2 ^ 31) ≤ r.count.toWord ∧ r.count.toWord < 2 ^ 31
  left : r.free + (Row.images rows).length = r.capacity

variable {r : Ring} {rows : List Row}

theorem Lists.rows_eq (lists : r.Lists rows) : r.rows = rows.length := by
  rcases lists.count with ⟨inside, none⟩ | counted
  · rw [rows_of_longRecord inside, none, List.length_nil]
  · rw [Ring.rows, counted, TupleCount.ready_ofRows]

theorem Lists.rows_eq_zero_iff (lists : r.Lists rows) : r.rows = 0 ↔ Row.images rows = [] := by
  have bound := Row.size_mul_length_le rows
  rw [lists.rows_eq]
  constructor
  · intro none
    rw [List.length_eq_zero_iff.mp none]
    rfl
  · intro none
    rw [none, List.length_nil, LengthWord.size] at bound
    omega

/-- The cursors meet if nothing is unread, or everything. -/
theorem Holds.read_eq_write_iff {xs : List UInt8} (held : r.Holds xs) :
    r.read = r.write ↔ xs.length = 0 ∨ xs.length = r.capacity := by
  have inside := held.read_lt
  have bound := held.fits
  rw [held.write_eq]
  by_cases turns : r.read + xs.length < r.capacity
  · rw [Nat.mod_eq_of_lt turns]
    omega
  · rw [Nat.mod_eq_sub_mod (by omega), Nat.mod_eq_of_lt (by omega)]
    omega

theorem Lists.agrees (lists : r.Lists rows) (room : LengthWord.size < r.capacity) :
    r.Agrees rows := by
  have bound := Row.size_mul_length_le rows
  have fits := lists.holds.fits
  have counted (n : Nat) (some : r.count = .rows n) : 1 ≤ n ∧ rows.length = n := by
    rcases lists.count with ⟨inside, -⟩ | ofRows
    · rw [inside] at some
      cases some
    · rw [ofRows] at some
      cases size : rows.length with
      | zero =>
        rw [size] at some
        cases some
      | succ m =>
        rw [size] at some
        injection some with same
        omega
  have few (n : Nat) (some : r.count = .rows n) : n ≤ r.capacity / 4 := by
    have same := (counted n some).2
    rw [LengthWord.size] at bound
    omega
  refine ⟨lists, room, lists.holds.read_lt, lists.holds.write_lt, ?_, ?_, ?_, ?_⟩
  · intro none
    have nothing : r.rows = 0 := by
      rcases none with empty | inside
      · rw [Ring.rows, empty]
        rfl
      · exact rows_of_longRecord inside
    rw [lists.rows_eq_zero_iff] at nothing
    rw [lists.holds.read_eq_write_iff, nothing]
    exact .inl rfl
  · intro n some
    obtain ⟨positive, same⟩ := counted n some
    refine ⟨positive, few n some, ?_⟩
    rw [lists.holds.read_eq_write_iff]
    rw [LengthWord.size] at bound
    omega
  · intro small
    cases count : r.count with
    | empty => decide
    | longRecord => decide
    | rows n =>
      have less := few n count
      simp only [TupleCount.toWord]
      omega
  · exact lists.holds.free_add_length lists.rows_eq_zero_iff

theorem Queues.lists {records : List Record} (queues : r.Queues records) :
    r.Lists (records.map fun record => ⟨record.length, record⟩) := by
  have same : Row.images (records.map fun record => ⟨record.length, record⟩) =
      rowsBytes records := List.flatMap_map ..
  have holds : r.Holds (Row.images (records.map fun record => ⟨record.length, record⟩)) := by
    rw [same]
    exact queues.holds
  refine ⟨holds, ?_, ?_⟩
  · rw [List.length_map]
    exact .inr queues.count
  · intro row member
    obtain ⟨record, listed, rfl⟩ := List.mem_map.mp member
    refine ⟨queues.short record listed, ?_⟩
    obtain ⟨before, after, split⟩ := List.append_of_mem listed
    have fits := queues.holds.fits
    rw [split, rowsBytes_append, rowsBytes_cons, List.length_append, List.length_append,
      rowBytes_length] at fits
    rw [chunk]
    dsimp only
    omega

/-- Whatever the buffer carries, its count and its cursors tell what is unread. -/
theorem Carries.agrees {t : Transit} (carries : r.Carries t) : ∃ rows, r.Agrees rows := by
  have room := carries.room
  cases t with
  | rows skip records => exact ⟨_, (CarriesRows.queues carries).lists.agrees room⟩
  | chunk skip record =>
    have chunk : r.CarriesChunk skip record := carries
    have more := chunk.more
    have short := chunk.short
    refine ⟨[⟨record.length - skip, (record.drop skip).take r.chunk⟩], Lists.agrees ?_ room⟩
    refine ⟨?_, .inr chunk.count, ?_⟩
    · have single : Row.images [⟨record.length - skip, (record.drop skip).take r.chunk⟩] =
          LengthWord.encode (record.length - skip) ++ (record.drop skip).take r.chunk :=
        List.append_nil _
      rw [single]
      exact chunk.holds
    · intro row member
      rw [List.mem_singleton.mp member, List.length_take, List.length_drop]
      dsimp only
      omega
  | request skip record =>
    have request : r.CarriesRequest skip record := carries
    exact ⟨[], Lists.agrees ⟨request.holds, .inl ⟨request.count, rfl⟩, List.forall_mem_nil _⟩ room⟩

/-- The only row takes up its length word and one chunk of what that says. -/
theorem Agrees.single (agrees : r.Agrees rows) (one : r.count = .rows 1) :
    r.free + (LengthWord.size + min r.readLength.1 r.chunk) = r.capacity := by
  have counted : rows.length = 1 := agrees.lists.rows_eq.symm.trans (rows_of_count one)
  obtain ⟨row, rfl⟩ := List.length_eq_one_iff.mp counted
  obtain ⟨short, size⟩ := agrees.lists.each row (List.mem_singleton_self row)
  have image : Row.images [row] = LengthWord.encode row.length ++ row.bytes := List.append_nil _
  have holds := agrees.lists.holds
  have left := agrees.left
  rw [image] at holds left
  rw [(holds.readLength short).1, ← size]
  rw [List.length_append, LengthWord.encode_length] at left
  exact left

end Ring

end RecordExchange
