import RecordExchange.Proofs.Ring.Chunks

set_option autoImplicit false

/-!
A long record crosses an empty buffer.

The producer offers the record whenever it likes, until it is told that the last byte is out; the
reader takes what is there. Of the two exactly one can get ahead at any moment, and a transfer goes
through the same moments in the same order whatever the schedule is: per chunk one offer, one look
at the number that precedes the chunk, and one pull.
-/

namespace RecordExchange

/-- The two parties of a transfer. -/
inductive Side where
  | producer
  | reader
  deriving DecidableEq

/-- What the reader has in hand. -/
inductive Reception where
  /-- Nothing yet. -/
  | waiting
  /-- The number in front of a chunk, which itself was not taken yet. -/
  | sized (record : LongRecord) (remaining : Nat)
  /-- A part of the record. -/
  | paused (record : LongRecord)
  /-- The record, whose row was not counted off yet. -/
  | complete (record : LongRecord)
  /-- Nothing any more: the payload was handed out. -/
  | done (payload : Record)

/-- A transfer: the buffer, the chunks put out, whether the producer was told that the last byte is
out, what the reader has, the chunks it pulled, and what either side reported as a failure. -/
structure Transfer where
  ring : Ring
  out : Nat
  sent : Bool
  reception : Reception
  pulled : Nat
  fault : Option Error

namespace Transfer

def start (ring : Ring) : Transfer := ⟨ring, 0, false, .waiting, 0, none⟩

/-- The producer offers the record, unless it was told that the last byte is out. -/
def offer (payload : Record) (t : Transfer) : Transfer :=
  if t.sent then t
  else
    match t.ring.pushLong payload with
    | .error cause => { t with fault := some cause }
    | .ok (ring, sent) =>
      { t with ring, sent, out := if t.ring.rows = 0 then t.out + 1 else t.out }

/-- The reader takes the next step, if there is a row for it. -/
def accept (t : Transfer) : Transfer :=
  match t.reception with
  | .waiting =>
    if t.ring.rows = 0 then t
    else
      let (length, ring) := t.ring.readLength
      { t with ring, reception := .sized (.start length) length }
  | .sized record remaining =>
    match t.ring.pullChunk record remaining with
    | (ring, record, true) =>
      { t with ring, reception := .complete record, pulled := t.pulled + 1 }
    | (ring, record, false) =>
      { t with ring, reception := .paused record, pulled := t.pulled + 1 }
  | .paused record =>
    if t.ring.rows = 0 then t
    else
      match t.ring.resumeLong record with
      | (ring, .error cause) => { t with ring, fault := some cause }
      | (ring, .ok remaining) => { t with ring, reception := .sized record remaining }
  | .complete record => { t with ring := t.ring.takeRow, reception := .done record.payload }
  | .done _ => t

def move (payload : Record) (t : Transfer) : Side → Transfer
  | .producer => t.offer payload
  | .reader => t.accept

def run (payload : Record) (t : Transfer) (schedule : List Side) : Transfer :=
  schedule.foldl (move payload) t

def turn (t : Transfer) : Side :=
  match t.reception with
  | .waiting | .paused _ => if t.ring.rows = 0 then .producer else .reader
  | _ => .reader

/-- The moves that got ahead so far: three for every chunk, and one for the row. -/
def progress (t : Transfer) : Nat :=
  3 * t.pulled +
    match t.reception with
    | .waiting | .paused _ => if t.ring.rows = 0 then 0 else 1
    | .sized _ _ => 2
    | .complete _ => 0
    | .done _ => 1

end Transfer

/-- The number of chunks a record of `length` bytes takes. -/
def chunkCount (length chunk : Nat) : Nat := (length + chunk - 1) / chunk

theorem lt_chunkCount_iff {length chunk n : Nat} (positive : 0 < chunk) :
    n < chunkCount length chunk ↔ n * chunk < length := by
  rw [chunkCount, ← Nat.succ_le_iff, Nat.le_div_iff_mul_le positive, Nat.succ_mul]
  omega

/-- A chunk is the last one exactly when it brings the count up. -/
theorem last_chunk_iff {length chunk n : Nat} (positive : 0 < chunk) (inside : n * chunk < length) :
    length - n * chunk ≤ chunk ↔ n + 1 = chunkCount length chunk := by
  have before : n < chunkCount length chunk := (lt_chunkCount_iff positive).mpr inside
  have next : n + 1 < chunkCount length chunk ↔ (n + 1) * chunk < length :=
    lt_chunkCount_iff positive
  rw [Nat.succ_mul] at next
  omega

namespace Transfer

open LongRecord

/-- The moments of a transfer. -/
inductive Moment (payload : Record) (chunk : Nat) : Transfer → Prop where
  /-- Nothing was put out. -/
  | opened {r : Ring} (cells : r.chunk = chunk) (carries : r.CarriesRows 0 []) :
      Moment payload chunk ⟨r, 0, false, .waiting, 0, none⟩
  /-- The first chunk is out. -/
  | begun {r : Ring} (cells : r.chunk = chunk) (carries : r.CarriesChunk 0 payload) :
      Moment payload chunk ⟨r, 1, false, .waiting, 0, none⟩
  /-- The reader knows how many bytes are to come; only the chunk itself is unread. -/
  | sized {r : Ring} (n : Nat) (cells : r.chunk = chunk) (room : LengthWord.size < r.capacity)
      (count : r.count = .rows 1) (holds : r.Holds ((payload.drop (n * chunk)).take chunk))
      (inside : n * chunk < payload.length) :
      Moment payload chunk
        ⟨r, n + 1, decide (payload.length - n * chunk ≤ chunk),
          .sized (beginning payload (n * chunk)) (payload.length - n * chunk), n, none⟩
  /-- The reader asked for another chunk. -/
  | requested {r : Ring} (n : Nat) (cells : r.chunk = chunk)
      (carries : r.CarriesRequest (n * chunk) payload) :
      Moment payload chunk ⟨r, n, false, .paused (beginning payload (n * chunk)), n, none⟩
  /-- Another chunk is out, and others will follow. -/
  | answered {r : Ring} (n : Nat) (cells : r.chunk = chunk) (begun : 0 < n)
      (carries : r.CarriesChunk (n * chunk) payload) :
      Moment payload chunk ⟨r, n + 1, false, .paused (beginning payload (n * chunk)), n, none⟩
  /-- The last chunk is out. -/
  | closed {r : Ring} (n : Nat) (cells : r.chunk = chunk) (inside : n * chunk < payload.length)
      (carries : r.CarriesRows (n * chunk) [payload]) :
      Moment payload chunk ⟨r, n + 1, true, .paused (beginning payload (n * chunk)), n, none⟩
  /-- The reader has all bytes. -/
  | complete {r : Ring} (cells : r.chunk = chunk) (room : LengthWord.size < r.capacity)
      (count : r.count = .rows 1) (holds : r.Holds []) :
      Moment payload chunk
        ⟨r, chunkCount payload.length chunk, true, .complete ⟨payload.length, payload⟩,
          chunkCount payload.length chunk, none⟩
  /-- The record was handed out. -/
  | done {r : Ring} (cells : r.chunk = chunk) (carries : r.CarriesRows 0 []) :
      Moment payload chunk
        ⟨r, chunkCount payload.length chunk, true, .done payload,
          chunkCount payload.length chunk, none⟩

variable {payload : Record} {chunk : Nat} {t : Transfer}

section Moves

variable {r next : Ring} {out pulled : Nat} {sent : Bool} {reception : Reception}
  {fault : Option Error} {record : LongRecord}

/-- What the producer puts out while no row is in the buffer. -/
theorem offer_of_pushLong {last : Bool} (none : r.rows = 0)
    (pushed : r.pushLong payload = .ok (next, last)) :
    offer payload ⟨r, out, false, reception, pulled, fault⟩ =
      ⟨next, out + 1, last, reception, pulled, fault⟩ := by
  simp only [offer, pushed, none, Bool.false_eq_true, ↓reduceIte]

theorem accept_waiting {length : Nat} (some : r.rows ≠ 0) (read : r.readLength = (length, next)) :
    accept ⟨r, out, sent, .waiting, pulled, fault⟩ =
      ⟨next, out, sent, .sized (.start length) length, pulled, fault⟩ := by
  simp only [accept, some, read, ↓reduceIte]

theorem accept_paused {remaining : Nat} (some : r.rows ≠ 0)
    (resumed : r.resumeLong record = (next, .ok remaining)) :
    accept ⟨r, out, sent, .paused record, pulled, fault⟩ =
      ⟨next, out, sent, .sized record remaining, pulled, fault⟩ := by
  simp only [accept, some, resumed, ↓reduceIte]

end Moves

/-- While a row is in the buffer, or after the last byte, the producer changes nothing. -/
theorem offer_of_rows {n : Nat} (waiting : t.ring.count = .rows n) (some : n ≠ 0) :
    t.offer payload = t := by
  have rows : t.ring.rows = n := by rw [Ring.rows, waiting]; rfl
  rw [offer]
  split
  · rfl
  · rename_i asked
    rw [Ring.pushLong_of_rows waiting]
    simp only [rows, some, ↓reduceIte]
    rw [← Bool.eq_false_iff.mpr asked]

namespace Moment

theorem offer_opened {r : Ring} (cells : r.chunk = chunk) (carries : r.CarriesRows 0 [])
    (long : chunk < payload.length) (short : payload.length ≤ LengthWord.maxLength) :
    Moment payload chunk (offer payload ⟨r, 0, false, .waiting, 0, none⟩) ∧
      (offer payload ⟨r, 0, false, .waiting, 0, none⟩).progress = 1 := by
  obtain ⟨sent, pushed, capacity, carried⟩ := carries.pushLong (cells ▸ long) short
  have same : sent.chunk = chunk := (Ring.chunk_congr capacity).trans cells
  have rows : sent.rows = 1 := by rw [Ring.rows, carried.count]; rfl
  rw [offer_of_pushLong (carries.rows_eq_zero_iff.mpr rfl) pushed]
  refine ⟨.begun same carried, ?_⟩
  simp only [progress, rows, Nat.one_ne_zero, ↓reduceIte]

/-- An offer answers the reader's request; whether it is told of the last byte depends on the
rest. -/
theorem offer_requested {r : Ring} (n : Nat) (cells : r.chunk = chunk)
    (carries : r.CarriesRequest (n * chunk) payload) :
    Moment payload chunk
        (offer payload ⟨r, n, false, .paused (beginning payload (n * chunk)), n, none⟩) ∧
      (offer payload ⟨r, n, false, .paused (beginning payload (n * chunk)), n, none⟩).progress =
        3 * n + 1 := by
  obtain ⟨sent, pushed, capacity, last, more⟩ := carries.pushLong
  have same : sent.chunk = chunk := (Ring.chunk_congr capacity).trans cells
  have none : r.rows = 0 := by rw [Ring.rows, carries.count]; rfl
  have begun : 0 < n := by
    apply Nat.pos_of_ne_zero
    rintro rfl
    exact absurd carries.begun (by omega)
  rw [offer_of_pushLong none pushed, cells]
  rw [cells] at last more
  by_cases rest : payload.length - n * chunk ≤ chunk
  · have rows : sent.rows = 1 := by
      rw [Ring.rows, (last rest).queues.count]
      rfl
    refine ⟨?_, by simp only [progress, rows, Nat.one_ne_zero, ↓reduceIte]⟩
    rw [decide_eq_true rest]
    exact .closed n same carries.inside (last rest)
  · have rows : sent.rows = 1 := by
      rw [Ring.rows, (more (by omega)).count]
      rfl
    refine ⟨?_, by simp only [progress, rows, Nat.one_ne_zero, ↓reduceIte]⟩
    rw [decide_eq_false rest]
    exact .answered n same begun (more (by omega))

theorem accept_begun {r : Ring} (cells : r.chunk = chunk) (carries : r.CarriesChunk 0 payload) :
    Moment payload chunk (accept ⟨r, 1, false, .waiting, 0, none⟩) ∧
      (accept ⟨r, 1, false, .waiting, 0, none⟩).progress = 2 := by
  obtain ⟨length, rest⟩ := carries.readLength
  have some : r.rows ≠ 0 := by rw [Ring.rows, carries.count]; exact Nat.one_ne_zero
  have more : chunk < payload.length := cells ▸ carries.more
  rw [cells, ← Nat.zero_mul chunk] at rest
  have read : r.readLength = (payload.length, r.readLength.2) := Prod.ext length rfl
  have sized : Moment payload chunk _ :=
    .sized (r := r.readLength.2) 0 cells carries.room carries.count rest (by omega)
  rw [Nat.zero_mul, decide_eq_false (by omega)] at sized
  rw [accept_waiting some read]
  exact ⟨sized, rfl⟩

theorem accept_answered {r : Ring} (n : Nat) (sent : Bool) (cells : r.chunk = chunk)
    (room : LengthWord.size < r.capacity) (count : r.count = .rows 1)
    (inside : n * chunk < payload.length)
    (told : sent = decide (payload.length - n * chunk ≤ chunk))
    (length : r.readLength.1 = payload.length - n * chunk)
    (rest : r.readLength.2.Holds ((payload.drop (n * chunk)).take chunk)) :
    Moment payload chunk
        (accept ⟨r, n + 1, sent, .paused (beginning payload (n * chunk)), n, none⟩) ∧
      (accept ⟨r, n + 1, sent, .paused (beginning payload (n * chunk)), n, none⟩).progress =
        3 * n + 2 := by
  have some : r.rows ≠ 0 := by rw [Ring.rows, count]; exact Nat.one_ne_zero
  have missing := beginning_missing (Nat.le_of_lt inside)
  have resumed := Ring.resumeLong_of_eq (length.trans missing.symm)
  rw [accept_paused some resumed, missing, told]
  exact ⟨.sized n cells room count rest inside, rfl⟩

theorem accept_last {r : Ring} (n : Nat) (cells : r.chunk = chunk)
    (room : LengthWord.size < r.capacity) (count : r.count = .rows 1)
    (holds : r.Holds ((payload.drop (n * chunk)).take chunk)) (inside : n * chunk < payload.length)
    (last : payload.length - n * chunk ≤ chunk) :
    Moment payload chunk (accept ⟨r, n + 1, true,
        .sized (beginning payload (n * chunk)) (payload.length - n * chunk), n, none⟩) ∧
      (accept ⟨r, n + 1, true,
        .sized (beginning payload (n * chunk)) (payload.length - n * chunk), n, none⟩).progress =
        3 * n + 3 := by
  have offset := beginning_offset (Nat.le_of_lt inside)
  have remaining : (payload.drop (n * chunk)).length = payload.length - n * chunk :=
    List.length_drop ..
  have counted := (last_chunk_iff (cells ▸ Ring.chunk_pos room) inside).mp last
  rw [List.take_of_length_le (by omega), ← List.append_nil (payload.drop (n * chunk))] at holds
  have all : (beginning payload (n * chunk)).offset + (payload.drop (n * chunk)).length =
      (beginning payload (n * chunk)).length := by
    change _ = payload.length
    omega
  have size : (payload.drop (n * chunk)).length = min (payload.length - n * chunk) r.chunk := by
    rw [remaining, cells, Nat.min_eq_left last]
  have pulled := Ring.pullChunk_last (beginning payload (n * chunk)) holds size all
  have joined : (beginning payload (n * chunk)).received ++ payload.drop (n * chunk) = payload :=
    List.take_append_drop ..
  rw [joined, remaining] at pulled
  have behind := holds.get_snd
  rw [remaining] at behind
  simp only [accept, pulled, counted]
  have whole : Moment payload chunk _ :=
    .complete (r := (r.get (payload.length - n * chunk)).2) cells room count behind
  refine ⟨whole, ?_⟩
  simp only [progress]
  omega

theorem accept_more {r : Ring} (n : Nat) (cells : r.chunk = chunk)
    (room : LengthWord.size < r.capacity)
    (holds : r.Holds ((payload.drop (n * chunk)).take chunk)) (inside : n * chunk < payload.length)
    (more : chunk < payload.length - n * chunk) (short : payload.length ≤ LengthWord.maxLength) :
    Moment payload chunk (accept ⟨r, n + 1, false,
        .sized (beginning payload (n * chunk)) (payload.length - n * chunk), n, none⟩) ∧
      (accept ⟨r, n + 1, false,
        .sized (beginning payload (n * chunk)) (payload.length - n * chunk), n, none⟩).progress =
        3 * n + 3 := by
  have offset := beginning_offset (Nat.le_of_lt inside)
  have missing : (beginning payload (n * chunk)).offset + r.chunk ≠
      (beginning payload (n * chunk)).length := by
    change _ ≠ payload.length
    omega
  rw [← cells] at holds
  obtain ⟨asked, pulled, capacity, carries⟩ := Ring.pullChunk_more _ room holds
    (cells ▸ more) (cells ▸ Nat.le_of_lt more) short missing (by omega)
  have same : asked.chunk = chunk := (Ring.chunk_congr capacity).trans cells
  have none : asked.rows = 0 := by rw [Ring.rows, carries.count]; rfl
  have joined : (beginning payload (n * chunk)).received ++ (payload.drop (n * chunk)).take chunk =
      payload.take ((n + 1) * chunk) := by
    rw [Nat.succ_mul, List.take_add]
    rfl
  rw [offset, cells, ← Nat.succ_mul] at carries
  rw [cells, joined] at pulled
  simp only [accept, pulled]
  refine ⟨.requested (n + 1) same carries, ?_⟩
  simp only [progress, none, ↓reduceIte]
  omega

theorem accept_complete {r : Ring} (cells : r.chunk = chunk) (room : LengthWord.size < r.capacity)
    (count : r.count = .rows 1) (holds : r.Holds []) :
    Moment payload chunk (accept ⟨r, chunkCount payload.length chunk, true,
      .complete ⟨payload.length, payload⟩, chunkCount payload.length chunk, none⟩) := by
  have empty : r.takeRow.count = .empty := by
    simp only [Ring.takeRow, Ring.rows, count, TupleCount.ready, Nat.lt_irrefl, ↓reduceIte]
  have whole := payload_whole payload
  obtain ⟨low, met⟩ := (Ring.holds_nil_iff r).mp holds
  simp only [accept, whole]
  exact .done cells (Ring.carriesRows_nil room empty low met)

/-- The party whose turn it is gets ahead by one move. -/
theorem move_turn (moment : Moment payload chunk t) (long : chunk < payload.length)
    (short : payload.length ≤ LengthWord.maxLength) (unfinished : ∀ p, t.reception ≠ .done p) :
    Moment payload chunk (t.move payload t.turn) ∧
      (t.move payload t.turn).progress = t.progress + 1 := by
  cases moment with
  | opened cells carries =>
    have none := carries.rows_eq_zero_iff.mpr rfl
    simp only [turn, none, ↓reduceIte, move]
    simp only [progress, none, ↓reduceIte]
    exact offer_opened cells carries long short
  | begun cells carries =>
    have some := Ring.rows_of_count carries.count
    simp only [turn, some, Nat.one_ne_zero, ↓reduceIte, move]
    simp only [progress, some, Nat.one_ne_zero, ↓reduceIte]
    exact accept_begun cells carries
  | sized n cells room count holds inside =>
    simp only [turn, move]
    by_cases last : payload.length - n * chunk ≤ chunk
    · rw [decide_eq_true last]
      exact accept_last n cells room count holds inside last
    · rw [decide_eq_false last]
      exact accept_more n cells room holds inside (by omega) short
  | requested n cells carries =>
    have none := Ring.rows_of_longRecord carries.count
    simp only [turn, none, ↓reduceIte, move]
    simp only [progress, none, ↓reduceIte]
    exact offer_requested n cells carries
  | answered n cells begun carries =>
    have some := Ring.rows_of_count carries.count
    obtain ⟨length, rest⟩ := carries.readLength
    have more := carries.more
    rw [cells] at rest more
    simp only [turn, some, Nat.one_ne_zero, ↓reduceIte, move]
    simp only [progress, some, Nat.one_ne_zero, ↓reduceIte]
    exact accept_answered n false cells carries.room carries.count (by omega)
      (decide_eq_false (by omega)).symm length rest
  | @closed r n cells inside carries =>
    have count : r.count = .rows 1 := carries.queues.count
    have some := Ring.rows_of_count count
    obtain ⟨length, last, rest⟩ := carries.readLength
    rw [cells] at last
    have whole : (payload.drop (n * chunk)).take chunk = payload.drop (n * chunk) :=
      List.take_of_length_le (by rw [List.length_drop]; exact last)
    rw [rowsBytes_nil, List.append_nil, ← whole] at rest
    simp only [turn, some, Nat.one_ne_zero, ↓reduceIte, move]
    simp only [progress, some, Nat.one_ne_zero, ↓reduceIte]
    exact accept_answered n true cells carries.room count inside
      (decide_eq_true last).symm length rest
  | complete cells room count holds =>
    simp only [turn, move]
    refine ⟨accept_complete cells room count holds, ?_⟩
    simp only [accept, progress]
  | done cells carries => exact absurd rfl (unfinished payload)

theorem move_other (moment : Moment payload chunk t) {side : Side} (other : side ≠ t.turn) :
    t.move payload side = t := by
  have one := Nat.one_ne_zero
  cases side with
  | producer =>
    cases moment with
    | opened cells carries =>
      simp only [turn, carries.rows_eq_zero_iff.mpr rfl, ↓reduceIte, ne_eq,
        not_true_eq_false] at other
    | requested n cells carries =>
      simp only [turn, Ring.rows_of_longRecord carries.count, ↓reduceIte, ne_eq,
        not_true_eq_false] at other
    | begun cells carries => exact offer_of_rows carries.count one
    | sized n cells room count holds inside => exact offer_of_rows count one
    | answered n cells begun carries => exact offer_of_rows carries.count one
    | closed n cells inside carries => rfl
    | complete cells room count holds => rfl
    | done cells carries => rfl
  | reader =>
    -- it is the producer's turn only while the reader finds no row
    unfold turn at other
    split at other
    · rename_i waiting
      split at other
      · rename_i none
        simp only [move, accept, waiting, none, ↓reduceIte]
      · exact absurd rfl other
    · rename_i record paused
      split at other
      · rename_i none
        simp only [move, accept, paused, none, ↓reduceIte]
      · exact absurd rfl other
    · exact absurd rfl other

theorem move (moment : Moment payload chunk t) (long : chunk < payload.length)
    (short : payload.length ≤ LengthWord.maxLength) (side : Side) :
    Moment payload chunk (t.move payload side) := by
  by_cases mine : side = t.turn
  · by_cases finished : ∃ p, t.reception = .done p
    · obtain ⟨p, finished⟩ := finished
      cases moment <;> cases finished
      rw [mine]
      rename_i cells carries
      exact .done cells carries
    · rw [mine]
      exact (moment.move_turn long short fun p ends => finished ⟨p, ends⟩).1
  · rw [moment.move_other mine]
    exact moment

theorem run (moment : Moment payload chunk t) (long : chunk < payload.length)
    (short : payload.length ≤ LengthWord.maxLength) (schedule : List Side) :
    Moment payload chunk (t.run payload schedule) := by
  induction schedule generalizing t with
  | nil => exact moment
  | cons side schedule ih => exact ih (moment.move long short side)

theorem progress_le_move (moment : Moment payload chunk t) (long : chunk < payload.length)
    (short : payload.length ≤ LengthWord.maxLength) (side : Side) :
    t.progress ≤ (t.move payload side).progress := by
  by_cases mine : side = t.turn
  · by_cases finished : ∃ p, t.reception = .done p
    · obtain ⟨p, finished⟩ := finished
      cases moment <;> cases finished
      rw [mine]
      exact Nat.le_refl _
    · have ahead := (moment.move_turn long short fun p ends => finished ⟨p, ends⟩).2
      rw [mine, ahead]
      exact Nat.le_succ _
  · have idle := moment.move_other mine
    exact Nat.le_of_eq (congrArg progress idle.symm)

theorem progress_le_run (moment : Moment payload chunk t) (long : chunk < payload.length)
    (short : payload.length ≤ LengthWord.maxLength) (schedule : List Side) :
    t.progress ≤ (t.run payload schedule).progress := by
  induction schedule generalizing t with
  | nil => exact Nat.le_refl _
  | cons side schedule ih =>
    exact Nat.le_trans (moment.progress_le_move long short side)
      (ih (moment.move long short side))

/-- A schedule in which the party whose turn it is moves at all gets ahead. -/
theorem progress_lt_run (moment : Moment payload chunk t) (long : chunk < payload.length)
    (short : payload.length ≤ LengthWord.maxLength) (unfinished : ∀ p, t.reception ≠ .done p)
    {schedule : List Side} (moves : t.turn ∈ schedule) :
    t.progress < (t.run payload schedule).progress := by
  induction schedule with
  | nil => cases moves
  | cons side schedule ih =>
    change _ < ((t.move payload side).run payload schedule).progress
    by_cases mine : side = t.turn
    · obtain ⟨next, ahead⟩ := moment.move_turn long short unfinished
      have later := next.progress_le_run long short schedule
      rw [mine]
      omega
    · rw [moment.move_other mine]
      apply ih
      rcases List.mem_cons.mp moves with first | later
      · exact absurd first.symm mine
      · exact later

theorem run_done (moment : Moment payload chunk t) (long : chunk < payload.length)
    (short : payload.length ≤ LengthWord.maxLength) (finished : ∃ p, t.reception = .done p)
    (schedule : List Side) : ∃ p, (t.run payload schedule).reception = .done p := by
  induction schedule generalizing t with
  | nil => exact finished
  | cons side schedule ih =>
    apply ih (moment.move long short side)
    obtain ⟨p, finished⟩ := finished
    cases moment <;> cases finished
    cases side <;> exact ⟨payload, rfl⟩

/-- Before its end a transfer has not got further than its chunks allow. -/
theorem progress_le (moment : Moment payload chunk t) (positive : 0 < chunk)
    (long : chunk < payload.length) (unfinished : ∀ p, t.reception ≠ .done p) :
    t.progress ≤ 3 * chunkCount payload.length chunk := by
  have count (n : Nat) : n < chunkCount payload.length chunk ↔ n * chunk < payload.length :=
    lt_chunkCount_iff positive
  have first := (count 0).mpr (by omega)
  cases moment with
  | opened cells carries =>
    simp only [progress, carries.rows_eq_zero_iff.mpr rfl, ↓reduceIte]
    omega
  | begun cells carries =>
    simp only [progress, Ring.rows_of_count carries.count, Nat.one_ne_zero, ↓reduceIte]
    omega
  | sized n cells room waiting holds inside =>
    have some := (count n).mpr inside
    simp only [progress]
    omega
  | requested n cells carries =>
    have some := (count n).mpr carries.inside
    simp only [progress, Ring.rows_of_longRecord carries.count, ↓reduceIte]
    omega
  | answered n cells begun carries =>
    have more := carries.more
    have some := (count n).mpr (by omega)
    simp only [progress, Ring.rows_of_count carries.count, Nat.one_ne_zero, ↓reduceIte]
    omega
  | @closed r n cells inside carries =>
    have some := (count n).mpr inside
    have waiting : r.count = .rows 1 := carries.queues.count
    simp only [progress, Ring.rows_of_count waiting, Nat.one_ne_zero, ↓reduceIte]
    omega
  | complete cells room count holds => exact Nat.le_refl _
  | done cells carries => exact absurd rfl (unfinished payload)

/-- When both parties keep moving, the transfer comes to its end. -/
theorem run_rounds (moment : Moment payload chunk t) (positive : 0 < chunk)
    (long : chunk < payload.length) (short : payload.length ≤ LengthWord.maxLength)
    (rounds : List (List Side)) (both : ∀ round ∈ rounds, ∀ side, side ∈ round)
    (enough : 3 * chunkCount payload.length chunk < t.progress + rounds.length) :
    ∃ p, (t.run payload rounds.flatten).reception = .done p := by
  by_cases finished : ∃ p, t.reception = .done p
  · exact moment.run_done long short finished _
  · have unfinished : ∀ p, t.reception ≠ .done p := fun p ends => finished ⟨p, ends⟩
    induction rounds generalizing t with
    | nil =>
      have bound := moment.progress_le positive long unfinished
      rw [List.length_nil] at enough
      omega
    | cons round rounds ih =>
      -- a round gets ahead by one move at least, and there are only so many of them
      have ahead := moment.progress_lt_run long short unfinished
        (both round (List.mem_cons_self ..) t.turn)
      have next := moment.run long short round
      rw [List.length_cons] at enough
      have joined : t.run payload (round ++ rounds.flatten) =
          (t.run payload round).run payload rounds.flatten := List.foldl_append
      rw [List.flatten_cons, joined]
      by_cases ended : ∃ p, (t.run payload round).reception = .done p
      · exact next.run_done long short ended _
      · exact ih next (fun other member => both other (List.mem_cons_of_mem _ member)) (by omega)
          ended (fun p done => ended ⟨p, done⟩)

end Moment

/-- What both sides may rely on at any moment of a transfer. -/
structure Handshake (payload : Record) (chunk : Nat) (t : Transfer) : Prop where
  /-- Neither side reports a mismatch. -/
  agreed : t.fault = none
  /-- At most one chunk is out and unread. -/
  ordered : t.pulled ≤ t.out ∧ t.out ≤ t.pulled + 1
  /-- The producer was told of the last byte exactly when it has put out all chunks. -/
  told : t.sent = true ↔ t.out = chunkCount payload.length chunk
  /-- While a chunk is unread, an offer changes nothing. -/
  quiet : t.pulled < t.out → t.ring.pushLong payload = .ok (t.ring, false)
  /-- Otherwise it puts the next chunk out, and its answer says whether that is the last one. -/
  answered : t.pulled = t.out → t.sent = false → ∃ ring, ring.count = .rows 1 ∧
    t.ring.pushLong payload = .ok (ring, decide (t.out + 1 = chunkCount payload.length chunk))
  /-- The word left for the producer is the number of bytes the reader has. -/
  requested : t.ring.count = .longRecord → ∃ record, t.reception = .paused record ∧
    LengthWord.decode (Ring.fetchFrom t.ring.bytes 0 LengthWord.size) = record.offset
  /-- No byte is unread once a chunk was taken, so that the word overwrites none. -/
  spared : ∀ record remaining, t.reception = .sized record remaining →
    (t.ring.get (min remaining t.ring.chunk)).2.Holds []
  /-- The bytes the reader has are those of the chunks it pulled. -/
  assembled : ∀ record, t.reception = .paused record →
    record.received = payload.take (t.pulled * chunk)
  finished : ∀ received, t.reception = .done received →
    received = payload ∧ t.pulled = chunkCount payload.length chunk ∧ t.ring.count = .empty ∧
      t.ring.read = t.ring.write

namespace Moment

theorem told (moment : Moment payload chunk t) (positive : 0 < chunk)
    (long : chunk < payload.length) :
    t.sent = true ↔ t.out = chunkCount payload.length chunk := by
  have count (n : Nat) : n < chunkCount payload.length chunk ↔ n * chunk < payload.length :=
    lt_chunkCount_iff positive
  have last (n : Nat) (inside : n * chunk < payload.length) := last_chunk_iff positive inside
  have first := (count 0).mpr (by omega)
  have second := (not_congr (last 0 (by omega))).mp (by omega)
  cases moment with
  | opened cells carries => simp only [Bool.false_eq_true, false_iff]; omega
  | begun cells carries => simp only [Bool.false_eq_true, false_iff]; omega
  | sized n cells room waiting holds inside => exact decide_eq_true_iff.trans (last n inside)
  | requested n cells carries =>
    have some := (count n).mpr carries.inside
    simp only [Bool.false_eq_true, false_iff]
    omega
  | answered n cells begun carries =>
    have more := carries.more
    rw [cells] at more
    have other := (not_congr (last n (by omega))).mp (by omega)
    simp only [Bool.false_eq_true, false_iff]
    exact other
  | @closed r n cells inside carries =>
    have rest := carries.readLength.2.1
    rw [cells] at rest
    exact iff_of_true rfl ((last n inside).mp rest)
  | complete cells room waiting holds => exact iff_of_true rfl rfl
  | done cells carries => exact iff_of_true rfl rfl

theorem quiet (moment : Moment payload chunk t) (unread : t.pulled < t.out) :
    t.ring.pushLong payload = .ok (t.ring, false) := by
  cases moment with
  | begun cells carries => exact Ring.pushLong_of_rows carries.count payload
  | sized n cells room count holds inside => exact Ring.pushLong_of_rows count payload
  | answered n cells begun carries => exact Ring.pushLong_of_rows carries.count payload
  | closed n cells inside carries => exact Ring.pushLong_of_rows carries.queues.count payload
  | opened cells carries => exact absurd unread (Nat.lt_irrefl _)
  | requested n cells carries => exact absurd unread (Nat.lt_irrefl _)
  | complete cells room count holds => exact absurd unread (Nat.lt_irrefl _)
  | done cells carries => exact absurd unread (Nat.lt_irrefl _)

theorem pushLong_answered (moment : Moment payload chunk t) (positive : 0 < chunk)
    (long : chunk < payload.length) (short : payload.length ≤ LengthWord.maxLength)
    (pulled : t.pulled = t.out) (more : t.sent = false) :
    ∃ ring, ring.count = .rows 1 ∧
      t.ring.pushLong payload =
        .ok (ring, decide (t.out + 1 = chunkCount payload.length chunk)) := by
  cases moment with
  | opened cells carries =>
    obtain ⟨sent, pushed, _, carried⟩ := carries.pushLong (cells ▸ long) short
    have inside : 0 * chunk < payload.length := by omega
    have other := (not_congr (last_chunk_iff positive inside)).mp (by omega)
    refine ⟨sent, carried.count, ?_⟩
    rw [decide_eq_false other]
    exact pushed
  | requested n cells carries =>
    obtain ⟨sent, pushed, _, last, more⟩ := carries.pushLong
    rw [cells] at pushed last more
    refine ⟨sent, ?_, ?_⟩
    · by_cases rest : payload.length - n * chunk ≤ chunk
      · exact (last rest).queues.count
      · exact (more (by omega)).count
    · rw [pushed, decide_eq_decide.mpr (last_chunk_iff positive carries.inside)]
  | begun cells carries => cases pulled
  | sized n cells room count holds inside => exact absurd pulled (Nat.ne_of_lt (Nat.lt_succ_self n))
  | answered n cells begun carries => exact absurd pulled (Nat.ne_of_lt (Nat.lt_succ_self n))
  | closed n cells inside carries => cases more
  | complete cells room count holds => cases more
  | done cells carries => cases more

theorem requested_word (moment : Moment payload chunk t) (asked : t.ring.count = .longRecord) :
    ∃ record, t.reception = .paused record ∧
      LengthWord.decode (Ring.fetchFrom t.ring.bytes 0 LengthWord.size) = record.offset := by
  have rows (r : Ring) (n : Nat) (count : r.count = .ofRows n) : r.count ≠ .longRecord := by
    rw [count]
    exact TupleCount.ofRows_ne_longRecord n
  cases moment with
  | requested n cells carries =>
    refine ⟨beginning payload (n * chunk), rfl, ?_⟩
    rw [beginning_offset (Nat.le_of_lt carries.inside)]
    exact carries.word
  | opened cells carries => exact absurd asked (rows _ 0 carries.queues.count)
  | begun cells carries => exact absurd asked (rows _ 1 carries.count)
  | sized n cells room count holds inside => exact absurd asked (rows _ 1 count)
  | answered n cells begun carries => exact absurd asked (rows _ 1 carries.count)
  | closed n cells inside carries => exact absurd asked (rows _ 1 carries.queues.count)
  | complete cells room count holds => exact absurd asked (rows _ 1 count)
  | done cells carries => exact absurd asked (rows _ 0 carries.queues.count)

theorem handshake (moment : Moment payload chunk t) (positive : 0 < chunk)
    (long : chunk < payload.length) (short : payload.length ≤ LengthWord.maxLength) :
    Handshake payload chunk t where
  agreed := by cases moment <;> rfl
  ordered := by cases moment <;> simp only [Nat.le_refl, Nat.le_succ, and_self]
  told := moment.told positive long
  quiet := moment.quiet
  answered := moment.pushLong_answered positive long short
  requested := moment.requested_word
  spared record remaining look := by
    cases moment <;> cases look
    rename_i r n cells room count holds inside
    rw [← List.append_nil (List.take _ _)] at holds
    have behind := holds.get_snd
    rw [List.length_take, List.length_drop, Nat.min_comm] at behind
    change (r.get (min _ r.chunk)).2.Holds []
    rw [cells]
    exact behind
  assembled record look := by cases moment <;> cases look <;> rfl
  finished received ends := by
    cases moment <;> cases ends
    rename_i cells carries
    exact ⟨rfl, rfl, carries.queues.count, ((Ring.holds_nil_iff _).mp carries.queues.holds).2⟩

end Moment

/-- A record longer than the buffer crosses it from any position of the cursors, whatever the
schedule: both sides agree at every moment, and the transfer ends once both have moved often
enough. -/
theorem long_record_handshake (ring : Ring) (payload : Record)
    (lower : LengthWord.size < ring.capacity) (none : ring.count = .empty)
    (inside : ring.read < ring.capacity) (met : ring.read = ring.write)
    (long : ring.capacity - LengthWord.size < payload.length)
    (short : payload.length < Word.values32) :
    (∀ schedule : List Side,
      Handshake payload (ring.capacity - LengthWord.size)
        ((start ring).run payload schedule)) ∧
    ∀ rounds : List (List Side), (∀ round ∈ rounds, ∀ side, side ∈ round) →
      3 * chunkCount payload.length (ring.capacity - LengthWord.size) < rounds.length →
      ∃ received, ((start ring).run payload rounds.flatten).reception = .done received := by
  have begin : Moment payload (ring.capacity - LengthWord.size) (start ring) :=
    .opened rfl (Ring.carriesRows_nil lower none inside met)
  have describable : payload.length ≤ LengthWord.maxLength := Nat.le_sub_one_of_lt short
  have positive : 0 < ring.capacity - LengthWord.size := Nat.sub_pos_of_lt lower
  constructor
  · intro schedule
    exact (begin.run long describable schedule).handshake positive long describable
  · intro rounds both enough
    exact begin.run_rounds positive long describable rounds both (Nat.lt_add_left _ enough)

/-- Two bytes cross a buffer of five, one at a time, from a position where the length words are
cut. -/
theorem long_record_handshake_single_bytes :
    (Ring.mk (Array.replicate 5 9) 3 3 .empty).count = .empty ∧
    (∀ schedule : List Side, Handshake [7, 8] 1
      ((start ⟨Array.replicate 5 9, 3, 3, .empty⟩).run [7, 8] schedule)) ∧
    ∀ rounds : List (List Side), (∀ round ∈ rounds, ∀ side, side ∈ round) →
      6 < rounds.length → ∃ received,
        ((start ⟨Array.replicate 5 9, 3, 3, .empty⟩).run [7, 8] rounds.flatten).reception =
          .done received :=
  ⟨rfl, long_record_handshake ⟨Array.replicate 5 9, 3, 3, .empty⟩ [7, 8] (by decide) rfl
    (by decide) rfl (by decide) (by decide)⟩

end Transfer

end RecordExchange
