import RecordExchange.Proofs.Ring.Transit

set_option autoImplicit false

/-!
The steps by which a long record passes through a buffer.

The producer's step answers an empty buffer with the first chunk and a request with the next one;
the reader's step takes a chunk and leaves a request, or has the record whole.
-/

namespace RecordExchange

namespace LongRecord

/-- What a reader has that received the first `n` bytes of a payload. -/
def beginning (payload : Record) (n : Nat) : LongRecord := ⟨payload.length, payload.take n⟩

variable {payload : Record} {n : Nat}

theorem beginning_offset (inside : n ≤ payload.length) : (beginning payload n).offset = n :=
  List.length_take_of_le inside

theorem beginning_missing (inside : n ≤ payload.length) :
    (beginning payload n).missing = payload.length - n := by
  rw [missing, beginning_offset inside]
  rfl

theorem payload_whole (payload : Record) :
    LongRecord.payload ⟨payload.length, payload⟩ = payload := by
  simp only [LongRecord.payload, missing, offset, Nat.sub_self, List.replicate_zero,
    List.append_nil]

end LongRecord

namespace Ring

attribute [local irreducible] storeFrom fetchFrom

variable {r : Ring} {skip : Nat} {record : Record}

/-- While a row or a chunk waits to be read, the producer adds nothing. -/
theorem pushLong_of_rows {n : Nat} (waiting : r.count = .rows n) (payload : Record) :
    r.pushLong payload = .ok (r, false) := by
  simp only [pushLong, waiting]

theorem carriesChunk_of_holds (room : LengthWord.size < r.capacity)
    (holds : r.Holds (LengthWord.encode (record.length - skip) ++ (record.drop skip).take r.chunk))
    (short : record.length ≤ LengthWord.maxLength) (more : r.chunk < record.length - skip) :
    ({ r with count := .rows 1 } : Ring).CarriesChunk skip record :=
  ⟨room, rfl, (holds_withCount r _ _).mpr holds, short, more⟩

theorem carriesRows_of_holds (room : LengthWord.size < r.capacity)
    (holds : r.Holds (LengthWord.encode (record.length - skip) ++ record.drop skip))
    (short : record.length ≤ LengthWord.maxLength) (inside : skip < record.length) :
    ({ r with count := .rows 1 } : Ring).CarriesRows skip [record] := by
  refine ⟨room, ⟨(holds_withCount r _ _).mpr ?_, rfl, ?_⟩, ?_, fun _ => ⟨record, [], rfl, inside⟩⟩
  · simp only [Transit.cut, rowsBytes_cons, rowsBytes_nil, List.append_nil, rowBytes,
      List.length_drop]
    exact holds
  · intro row member
    rw [List.mem_singleton.mp member, List.length_drop]
    exact Nat.le_trans (Nat.sub_le _ _) short
  · intro other member
    rw [List.mem_singleton.mp member]
    exact short

/-- The buffer after the reader asked for the bytes from `offset` on. -/
def request (r : Ring) (offset : Nat) : Ring :=
  { r with bytes := storeFrom r.bytes 0 (LengthWord.encode offset), count := .longRecord }

theorem request_capacity (r : Ring) (offset : Nat) : (r.request offset).capacity = r.capacity :=
  storeFrom_size ..

theorem request_word {offset : Nat} (room : LengthWord.size < r.capacity)
    (short : offset ≤ LengthWord.maxLength) :
    LengthWord.decode (fetchFrom (r.request offset).bytes 0 LengthWord.size) = offset := by
  have back := fetchFrom_storeFrom r.bytes 0 (LengthWord.encode offset) (Nat.le_of_lt room)
  rw [LengthWord.encode_length] at back
  rw [request, back, LengthWord.decode_encode offset short]

/-- A request left in the first cells of a buffer whose bytes were all taken. -/
theorem Holds.request (holds : r.Holds []) (room : LengthWord.size < r.capacity)
    (short : record.length ≤ LengthWord.maxLength) (long : r.chunk < record.length)
    (begun : 0 < skip) (inside : skip < record.length) :
    (r.request skip).CarriesRequest skip record := by
  have capacity := r.request_capacity skip
  refine ⟨capacity ▸ room, rfl, ?_, request_word room (by omega), short, ?_, begun, inside⟩
  · exact (holds_withCount _ .longRecord []).mpr (holds.overwrite 0 (LengthWord.encode skip))
  · rw [chunk_congr capacity]
    exact long

/-- The first chunk fills an empty buffer. -/
theorem CarriesRows.pushLong (carries : r.CarriesRows 0 []) (long : r.chunk < record.length)
    (short : record.length ≤ LengthWord.maxLength) :
    ∃ sent : Ring, r.pushLong record = .ok (sent, false) ∧ sent.capacity = r.capacity ∧
      sent.CarriesChunk 0 record := by
  have count : r.count = .empty := carries.queues.count
  have empty : r.Holds [] := carries.queues.holds
  have room := carries.room
  have size : (record.take r.chunk).length = r.chunk :=
    List.length_take_of_le (Nat.le_of_lt long)
  have written := empty.put_part record.length (record.take r.chunk)
    (by rw [size, chunk, List.length_nil]; omega)
  have capacity := put_put_capacity r (LengthWord.encode record.length) (record.take r.chunk)
  have answered : r.pushLong record = .ok
      ({ (r.put (LengthWord.encode record.length)).put (record.take r.chunk) with
          count := .rows 1 }, false) := by
    simp only [Ring.pushLong, count]
  refine ⟨_, answered, capacity, carriesChunk_of_holds (capacity.symm ▸ room) ?_ short ?_⟩
  · rw [chunk_congr capacity]
    exact written
  · rw [chunk_congr capacity]
    exact long

/-- A request is answered with the chunk that follows the bytes the reader has. The answer is the
last one exactly when the rest is no longer than a chunk. -/
theorem CarriesRequest.pushLong (carries : r.CarriesRequest skip record) :
    ∃ sent : Ring,
      r.pushLong record = .ok (sent, decide (record.length - skip ≤ r.chunk)) ∧
      sent.capacity = r.capacity ∧
      (record.length - skip ≤ r.chunk → sent.CarriesRows skip [record]) ∧
      (r.chunk < record.length - skip → sent.CarriesChunk skip record) := by
  have room := carries.room
  have inside := carries.inside
  have begun := carries.begun
  have remaining : (record.drop skip).length = record.length - skip := List.length_drop ..
  -- both branches write the same bytes: the rest of the record, cut to a chunk
  obtain ⟨part, cut⟩ : ∃ part,
      (record.drop skip).take (min (record.length - skip) r.chunk) = part := ⟨_, rfl⟩
  have bound : LengthWord.size + part.length ≤ r.capacity := by
    rw [← cut, List.length_take, remaining, chunk]
    omega
  have written := carries.holds.put_part (record.length - skip) part
    (by rw [List.length_nil]; omega)
  have capacity := put_put_capacity r (LengthWord.encode (record.length - skip)) part
  have answered : r.pushLong record = .ok
      ({ (r.put (LengthWord.encode (record.length - skip))).put part with count := .rows 1 },
        decide (record.length - skip ≤ r.chunk)) := by
    have continues : ¬ (skip = 0 ∨ record.length ≤ skip) := by omega
    simp only [Ring.pushLong, carries.count, carries.word, continues, ↓reduceIte, cut]
  refine ⟨_, answered, capacity, ?_, ?_⟩
  · intro last
    have whole : part = record.drop skip := by
      rw [← cut, List.take_of_length_le (by omega)]
    apply carriesRows_of_holds (capacity.symm ▸ room) _ carries.short inside
    rw [whole] at written ⊢
    exact written
  · intro more
    apply carriesChunk_of_holds (capacity.symm ▸ room) _ carries.short
    · rw [chunk_congr capacity]
      exact more
    · rw [chunk_congr capacity, ← Nat.min_eq_right (Nat.le_of_lt more), cut]
      exact written

/-- The length word in front of a chunk counts all bytes still to come, which are more than the
buffer could hold whole. -/
theorem CarriesChunk.readLength (carries : r.CarriesChunk skip record) :
    r.readLength.1 = record.length - skip ∧
      r.readLength.2.Holds ((record.drop skip).take r.chunk) :=
  carries.holds.readLength (Nat.le_trans (Nat.sub_le _ _) carries.short)

theorem pullChunk_last (long : LongRecord) {part rest : List UInt8} {remaining : Nat}
    (held : r.Holds (part ++ rest)) (size : part.length = min remaining r.chunk)
    (last : long.offset + part.length = long.length) :
    r.pullChunk long remaining =
      ((r.get part.length).2, ⟨long.length, long.received ++ part⟩, true) := by
  have taken : r.get part.length = (part, (r.get part.length).2) := Prod.ext held.get_fst rfl
  have complete : (long.received ++ part).length = long.length := by
    rw [List.length_append]
    exact last
  rw [pullChunk, ← size, taken]
  simp only [LongRecord.offset, complete, ↓reduceIte]

/-- A pull of a chunk after which bytes are missing leaves the request for them. What the reader
counts as received need not be what went before; the request says what the reader counts. -/
theorem pullChunk_more (long : LongRecord) {remaining : Nat} (room : LengthWord.size < r.capacity)
    (held : r.Holds ((record.drop skip).take r.chunk)) (full : r.chunk < record.length - skip)
    (size : r.chunk ≤ remaining) (short : record.length ≤ LengthWord.maxLength)
    (missing : long.offset + r.chunk ≠ long.length)
    (inside : long.offset + r.chunk < record.length) :
    ∃ asked : Ring,
      r.pullChunk long remaining =
        (asked, ⟨long.length, long.received ++ (record.drop skip).take r.chunk⟩, false) ∧
      asked.capacity = r.capacity ∧
      asked.CarriesRequest (long.offset + r.chunk) record := by
  have positive := chunk_pos room
  have length : ((record.drop skip).take r.chunk).length = r.chunk := by
    apply List.length_take_of_le
    rw [List.length_drop]
    exact Nat.le_of_lt full
  obtain ⟨read, taken, left, capacity⟩ : ∃ read,
      r.get r.chunk = ((record.drop skip).take r.chunk, read) ∧ read.Holds [] ∧
        read.capacity = r.capacity := by
    rw [← List.append_nil ((record.drop skip).take r.chunk)] at held
    have front := held.get_fst
    have behind := held.get_snd
    rw [length] at front behind
    exact ⟨_, Prod.ext front rfl, behind, rfl⟩
  have count : (long.received ++ (record.drop skip).take r.chunk).length =
      long.offset + r.chunk := by
    rw [List.length_append, length]
    rfl
  have pulled : r.pullChunk long remaining =
      (read.request (long.offset + r.chunk),
        ⟨long.length, long.received ++ (record.drop skip).take r.chunk⟩, false) := by
    rw [pullChunk, Nat.min_eq_right size, taken]
    simp only [LongRecord.offset] at count missing ⊢
    simp only [count, missing, ↓reduceIte]
    rfl
  refine ⟨_, pulled, (request_capacity ..).trans capacity, ?_⟩
  apply left.request (capacity.symm ▸ room) short _ (by omega) inside
  rw [chunk_congr capacity]
  exact Nat.lt_of_lt_of_le full (Nat.sub_le _ _)

/-- Resuming with the number of bytes that are missing. -/
theorem resumeLong_of_eq {long : LongRecord} (same : r.readLength.1 = long.missing) :
    r.resumeLong long = (r.readLength.2, .ok long.missing) := by
  simp only [resumeLong, same, ↓reduceIte]

/-- Resuming with another number reports a mismatch. -/
theorem resumeLong_of_ne {long : LongRecord} (other : r.readLength.1 ≠ long.missing) :
    r.resumeLong long =
      (r.readLength.2, .error (.longRecordMismatch long.missing r.readLength.1)) := by
  simp only [resumeLong, other, ↓reduceIte]

end Ring

end RecordExchange
