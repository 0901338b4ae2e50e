import RecordExchange.Proofs.Commons.Wakeups

set_option autoImplicit false

/-!
Beside which slots a reader goes to sleep.

A read looks at its slot's status where it finds no row, and again when it wakes up in the middle of
a long record. It does not where the row in front turns out to be the beginning of a long record:
it takes the first chunk and sleeps until the next one comes, whatever became of the slot.
-/

namespace RecordExchange

-- comparing buffers must not run through their cells
attribute [local irreducible] Ring.storeFrom Ring.fetchFrom

/-- A read that sleeps in the middle of a long record has not got all of it. -/
def ReadPoint.Unfinished : ReadPoint → Prop
  | .row => True
  | .chunk record => record.offset < record.length

namespace Ring

variable (r : Ring) (record : LongRecord) (remaining : Nat)

theorem pullChunk_length : (r.pullChunk record remaining).2.1.length = record.length := by
  simp only [pullChunk]
  split
  · rfl
  · rfl

theorem pullChunk_offset :
    (r.pullChunk record remaining).2.1.offset = record.offset + min remaining r.chunk := by
  have size : (record.received ++ (r.get (min remaining r.chunk)).1).length =
      record.offset + min remaining r.chunk := by
    rw [List.length_append, LongRecord.offset, get, fetchFrom_length]
  simp only [pullChunk]
  split
  · exact size
  · exact size

/-- A chunk completes its record exactly if the bytes are all there. -/
theorem pullChunk_whole_iff : (r.pullChunk record remaining).2.2 = true ↔
    record.offset + min remaining r.chunk = record.length := by
  rw [← pullChunk_offset]
  simp only [pullChunk]
  split
  · rename_i all
    exact ⟨fun _ => all, fun _ => rfl⟩
  · rename_i some
    exact iff_of_false Bool.false_ne_true some

theorem pullChunk_asks (part : (r.pullChunk record remaining).2.2 = false) :
    (r.pullChunk record remaining).1.count = .longRecord := by
  simp only [pullChunk] at part ⊢
  split at part
  · cases part
  · rename_i some
    simp only [some, ↓reduceIte]

end Ring

namespace Queue

variable (q : Queue) {i : Nat} {l : Lane}

/-- A latch that is put back clear is clear, also where it has no place. -/
theorem setLane_clear (clear : l.latch.isSet = false) :
    ((q.setLane i l).lane i).latch.isSet = false := by
  change ((q.sync.consumers.setIfInBounds i l.latch).getD i default).isSet = false
  rw [Segment.getD_setIfInBounds]
  by_cases inside : i < q.sync.consumers.size
  · rw [if_pos ⟨rfl, inside⟩]
    exact clear
  · rw [if_neg fun found => inside found.2, Array.getD_eq_getD_getElem?,
      Array.getElem?_eq_none (Nat.le_of_not_lt inside)]
    rfl

theorem setLane_status (same : l.slot.status = (q.lane i).slot.status) :
    ((q.setLane i l).lane i).slot.status = (q.lane i).slot.status := by
  change ((q.entry.slots.setIfInBounds i l.slot).getD i default).status = _
  rw [Segment.getD_setIfInBounds]
  by_cases inside : i < q.entry.slots.size
  · rw [if_pos ⟨rfl, inside⟩]
    exact same
  · rw [if_neg fun found => inside found.2]
    rfl

end Queue

namespace Slot

/-- Why a read sleeps, from where it stands. -/
inductive Lulls (slot : Slot) (canWait : Bool) : ReadPoint → Prop
  /-- There is nothing to read yet, and the caller waits for it. -/
  | nothing (none : slot.ring.rows = 0) (active : slot.status = .active)
      (patient : canWait = true) : Lulls slot canWait .row
  /-- The only row is the beginning of a long record. -/
  | beginning (only : slot.ring.count = .rows 1)
      (long : slot.ring.chunk < slot.ring.readLength.1) : Lulls slot canWait .row
  /-- The chunk that was asked for is not there yet. -/
  | requested {record : LongRecord} (opened : slot.IsOpen)
      (asked : slot.ring.count = .longRecord) : Lulls slot canWait (.chunk record)
  /-- The chunk that came, as the only row, is not the last. -/
  | middle {record : LongRecord} (opened : slot.IsOpen) (only : slot.ring.count = .rows 1)
      (next : slot.ring.readLength.1 = record.missing) (more : slot.ring.chunk < record.missing) :
      Lulls slot canWait (.chunk record)

/-- A slot that is not active, beside which a read that stands at a point goes to sleep all the
same. -/
inductive Overlooked (slot : Slot) : ReadPoint → Prop
  /-- Nobody looks whether the slot is still active before the first chunk of a long record is
  taken. -/
  | beginning (only : slot.ring.count = .rows 1)
      (long : slot.ring.chunk < slot.ring.readLength.1) (closed : slot.status ≠ .active) :
      Overlooked slot .row
  /-- In the middle of a long record the end of the data does not count: the next chunk is waited
  for. -/
  | requested {record : LongRecord} (ended : slot.status = .eof)
      (asked : slot.ring.count = .longRecord) : Overlooked slot (.chunk record)
  /-- Nor does it when that chunk has come and is not the last. -/
  | middle {record : LongRecord} (ended : slot.status = .eof)
      (only : slot.ring.count = .rows 1) (next : slot.ring.readLength.1 = record.missing)
      (more : slot.ring.chunk < record.missing) : Overlooked slot (.chunk record)

theorem IsOpen.eof {slot : Slot} (opened : slot.IsOpen) (closed : slot.status ≠ .active) :
    slot.status = .eof := opened.resolve_left closed

theorem overlooked_iff {slot : Slot} {canWait : Bool} {point : ReadPoint} :
    slot.Lulls canWait point ∧ slot.status ≠ .active ↔ slot.Overlooked point := by
  constructor
  · rintro ⟨lulls, closed⟩
    cases lulls with
    | nothing none active patient => exact absurd active closed
    | beginning only long => exact .beginning only long closed
    | requested opened asked => exact .requested (opened.eof closed) asked
    | middle opened only next more => exact .middle (opened.eof closed) only next more
  · intro overlooked
    have closed (ended : slot.status = .eof) : slot.status ≠ .active := by
      rw [ended]
      exact SlotStatus.noConfusion
    cases overlooked with
    | beginning only long closed => exact ⟨.beginning only long, closed⟩
    | requested ended asked => exact ⟨.requested (.inr ended) asked, closed ended⟩
    | middle ended only next more => exact ⟨.middle (.inr ended) only next more, closed ended⟩

end Slot

namespace Consumer

variable {c : Consumer} {q : Queue} {canWait : Bool} {point next : ReadPoint} {lulled : Prop}

/-- A step of a read has come to an end, or it sleeps, and it sleeps only if it was lulled. Then its
slot keeps the status that was found, a long record is not whole yet, and the next chunk is asked
for, unless there is nothing to read beside an active slot. -/
inductive Rests (c : Consumer) (q : Queue) (lulled : Prop) (after : Queue × Consumer × ReadStep) :
    Prop
  | ends (awake : ¬ lulled) (result : Except Error ReadOutcome) (ended : after.2.2 = .ended result)
  | sleeps (reason : lulled) (lane : Lane) (next : ReadPoint)
      (status : lane.slot.status = (q.lane c.index).slot.status) (later : next.Unfinished)
      (slept : after = c.sleep q lane next)
      (asks : lane.slot.ring.count = .longRecord ∨
        lane.slot.ring.rows = 0 ∧ lane.slot.status = .active)

theorem fail_rests (c : Consumer) (q : Queue) (status : SlotStatus) (awake : ¬ lulled) :
    c.Rests q lulled (c.fail q status) := by
  rw [fail]
  split
  · exact .ends awake _ rfl
  · exact .ends awake _ rfl

/-- Handing a row out ends the read. -/
theorem deliver_ended (c : Consumer) (q : Queue) (ring : Ring) (payload : Record) :
    ∃ result, (c.deliver q ring payload).2.2 = .ended result := by
  rcases deliver_result c q ring payload with brings | stopped
  · exact ⟨_, brings⟩
  · exact ⟨_, stopped⟩

/-- A chunk that comes as the only row and does not complete its record lulls the reader. -/
theorem pull_rests (c : Consumer) (q : Queue) {ring : Ring} {record : LongRecord} {remaining : Nat}
    (most : record.offset + min remaining ring.chunk ≤ record.length)
    (reason : lulled ↔ ring.count = .rows 1 ∧
      record.offset + min remaining ring.chunk ≠ record.length) :
    c.Rests q lulled (c.pull q ring record remaining) := by
  have length := ring.pullChunk_length record remaining
  have offset := ring.pullChunk_offset record remaining
  have whole := ring.pullChunk_whole_iff record remaining
  have asks := ring.pullChunk_asks record remaining
  rw [pull]
  split
  · rename_i pulled
    rw [pulled] at whole
    obtain ⟨result, ended⟩ := deliver_ended c q _ _
    exact .ends (fun lulled => (reason.mp lulled).2 (whole.mp rfl)) result ended
  · rename_i left rest pulled
    rw [pulled] at length offset whole asks
    have some : record.offset + min remaining ring.chunk ≠ record.length :=
      fun all => Bool.noConfusion (whole.mpr all)
    have later : rest.offset < rest.length := by
      rw [length, offset]
      exact Nat.lt_of_le_of_ne most some
    split
    · rename_i only
      exact .sleeps (reason.mpr ⟨only, some⟩) ((q.lane c.index).withRing left) (.chunk rest) rfl
        later rfl (.inl (asks rfl))
    · rename_i more
      exact .ends (fun lulled => more (reason.mp lulled).1) _ rfl

/-- A read at its beginning sleeps if it finds nothing and waits for it, or if it finds the
beginning of a long record. -/
theorem readStep_row_rests (c : Consumer) (q : Queue) (canWait : Bool) :
    c.Rests q ((q.lane c.index).slot.Lulls canWait .row) (c.readStep canWait .row q) := by
  simp only [readStep]
  split
  · rename_i none
    have idle (reason : (q.lane c.index).slot.Lulls canWait .row) :
        (q.lane c.index).slot.status = .active ∧ canWait = true := by
      cases reason with
      | nothing _ active patient => exact ⟨active, patient⟩
      | beginning only _ =>
        rw [Ring.rows_of_count only] at none
        exact absurd none Nat.one_ne_zero
    split
    · rename_i ended
      have awake (reason : (q.lane c.index).slot.Lulls canWait .row) : False := by
        have active := (idle reason).1
        rw [ended] at active
        cases active
      exact .ends awake _ rfl
    · rename_i active
      split
      · rename_i patient
        exact .sleeps (.nothing none active patient) _ .row rfl trivial rfl (.inr ⟨none, active⟩)
      · rename_i impatient
        exact .ends (fun reason => impatient (idle reason).2) _ rfl
    · rename_i inactive
      exact fail_rests c q _ fun reason => inactive (idle reason).1
  · rename_i rows
    have begins (reason : (q.lane c.index).slot.Lulls canWait .row) :
        (q.lane c.index).slot.ring.count = .rows 1 ∧
          (q.lane c.index).slot.ring.chunk < (q.lane c.index).slot.ring.readLength.1 := by
      cases reason with
      | nothing none _ _ => exact absurd none rows
      | beginning only long => exact ⟨only, long⟩
    split
    · rename_i isLong
      have more := of_decide_eq_true isLong
      rw [Ring.readLength_chunk] at more
      -- nothing of the record came before, and its first chunk is a full one
      have offset : (LongRecord.start (q.lane c.index).slot.ring.readLength.1).offset = 0 := rfl
      have length : (LongRecord.start (q.lane c.index).slot.ring.readLength.1).length =
          (q.lane c.index).slot.ring.readLength.1 := rfl
      refine pull_rests c q ?_ ⟨fun reason => ⟨(begins reason).1, ?_⟩, fun part => ?_⟩
      · rw [Ring.readLength_chunk, offset, length]
        omega
      · rw [Ring.readLength_chunk, offset, length]
        omega
      · exact .beginning part.1 more
    · rename_i short
      obtain ⟨result, ended⟩ := deliver_ended c q _ _
      exact .ends (fun reason => short (decide_eq_true (begins reason).2)) result ended

/-- A read in the middle of a long record sleeps beside an open slot if the next chunk has not come
or is not the last one. -/
theorem readStep_chunk_rests (c : Consumer) (q : Queue) (canWait : Bool) {record : LongRecord}
    (unfinished : record.offset < record.length) :
    c.Rests q ((q.lane c.index).slot.Lulls canWait (.chunk record))
      (c.readStep canWait (.chunk record) q) := by
  have closed (ended : ¬ (q.lane c.index).slot.IsOpen) :
      ¬ (q.lane c.index).slot.Lulls canWait (.chunk record) := by
    intro reason
    cases reason with
    | requested opened _ => exact ended opened
    | middle opened _ _ _ => exact ended opened
  have all : record.offset + record.missing = record.length :=
    Nat.add_sub_cancel' (Nat.le_of_lt unfinished)
  simp only [readStep]
  split
  · rename_i failed
    exact fail_rests c q _ (closed (Slot.not_isOpen_of_error failed))
  · rename_i done
    exact fail_rests c q _ (closed (Slot.not_isOpen_of_done done))
  · rename_i failed done
    have opened : (q.lane c.index).slot.IsOpen := Slot.isOpen_of_ne failed done
    split
    · rename_i asked
      exact .sleeps (.requested opened asked) _ (.chunk record) rfl unfinished rfl (.inl asked)
    · rename_i answered
      have goesOn (reason : (q.lane c.index).slot.Lulls canWait (.chunk record)) :
          (q.lane c.index).slot.ring.count = .rows 1 ∧
            (q.lane c.index).slot.ring.readLength.1 = record.missing ∧
            (q.lane c.index).slot.ring.chunk < record.missing := by
        cases reason with
        | requested _ asked => exact absurd asked answered
        | middle _ only next more => exact ⟨only, next, more⟩
      by_cases next : (q.lane c.index).slot.ring.readLength.1 = record.missing
      · rw [Ring.resumeLong_of_eq next]
        refine pull_rests c q ?_ ?_
        · omega
        · rw [Ring.readLength_chunk]
          constructor
          · intro reason
            have more := (goesOn reason).2.2
            exact ⟨(goesOn reason).1, by omega⟩
          · rintro ⟨only, some⟩
            exact .middle opened only next (by omega)
      · rw [Ring.resumeLong_of_ne next]
        exact .ends (fun reason => next (goesOn reason).2.1) _ rfl

/-- A read sleeps for the listed reasons and no other. -/
theorem readStep_rests (c : Consumer) (q : Queue) (canWait : Bool)
    (unfinished : point.Unfinished) :
    c.Rests q ((q.lane c.index).slot.Lulls canWait point) (c.readStep canWait point q) := by
  cases point with
  | row => exact readStep_row_rests c q canWait
  | chunk record => exact readStep_chunk_rests c q canWait unfinished

/-- A read that sleeps leaves the status of its slot as it was, and a clear latch. -/
theorem readStep_leaves (unfinished : point.Unfinished)
    (lulled : (q.lane c.index).slot.Lulls canWait point) :
    ((c.readStep canWait point q).1.lane c.index).slot.status = (q.lane c.index).slot.status ∧
      ((c.readStep canWait point q).1.lane c.index).latch.isSet = false := by
  cases readStep_rests c q canWait unfinished with
  | ends awake result ended => exact absurd lulled awake
  | sleeps reason lane next status later slept asks =>
    rw [slept, sleep, Queue.wakeProducer_lane]
    exact ⟨q.setLane_status status, q.setLane_clear rfl⟩

/-- A read that looks at a failed slot's status reports the failure. -/
theorem readStep_failed (failed : (q.lane c.index).slot.status = .error)
    (idle : point = .row → (q.lane c.index).slot.ring.rows = 0) :
    (c.readStep canWait point q).2.2 =
      .ended (.error (.producerFailed c.handle.name c.index .error)) := by
  cases point with
  | row => simp only [readStep, idle rfl, failed, fail, reduceCtorEq, ↓reduceIte]
  | chunk record => simp only [readStep, failed, fail, reduceCtorEq, ↓reduceIte]

end Consumer

namespace ConsumerSeat

/-- The read that a move begins or goes on with, and whether its caller waits for a row. -/
def takesUp (seat : ConsumerSeat) : ConsumerMove → Option (Bool × ReadPoint)
  | .read canWait => if seat.isOpen ∧ seat.reading = none then some (canWait, .row) else none
  | .resume => if seat.isOpen then seat.reading.map (true, ·) else none
  | _ => none

variable {seat : ConsumerSeat} {q : Queue} {move : ConsumerMove} {canWait : Bool}
  {point : ReadPoint}

theorem takesUp_cases (reads : seat.takesUp move = some (canWait, point)) :
    seat.isOpen = true ∧ (move = .read canWait ∧ seat.reading = none ∧ point = .row ∨
      move = .resume ∧ seat.reading = some point ∧ canWait = true) := by
  cases move with
  | read wait =>
    simp only [takesUp] at reads
    split at reads
    · rename_i free
      cases reads
      exact ⟨free.1, .inl ⟨rfl, free.2, rfl⟩⟩
    · cases reads
  | resume =>
    simp only [takesUp] at reads
    split at reads
    · rename_i opened
      obtain ⟨slept, stands, same⟩ := Option.map_eq_some_iff.mp reads
      cases same
      exact ⟨opened, .inr ⟨rfl, stands, rfl⟩⟩
    · cases reads
  | abandon live => cases reads
  | leave => cases reads
  | drop => cases reads

theorem step_of_takesUp (reads : seat.takesUp move = some (canWait, point)) :
    seat.step q move = seat.read canWait point q := by
  obtain ⟨opened, ⟨rfl, stands, rfl⟩ | ⟨rfl, stands, rfl⟩⟩ := takesUp_cases reads
  · simp only [step, opened, stands, ↓reduceIte]
  · simp only [step, opened, stands, ↓reduceIte]

/-- No read that sleeps has got all of a long record. -/
def Unfinished (seat : ConsumerSeat) : Prop :=
  ∀ point, seat.reading = some point → point.Unfinished

theorem Unfinished.of_awake (awake : seat.reading = none) : seat.Unfinished := by
  intro point asleep
  rw [awake] at asleep
  cases asleep

theorem Unfinished.takesUp (unfinished : seat.Unfinished)
    (reads : seat.takesUp move = some (canWait, point)) : point.Unfinished := by
  obtain ⟨-, ⟨-, -, rfl⟩ | ⟨-, stands, -⟩⟩ := takesUp_cases reads
  · exact trivial
  · exact unfinished point stands

theorem read_unfinished (seat : ConsumerSeat) (q : Queue) (canWait : Bool) (point : ReadPoint)
    (unfinished : point.Unfinished) : (seat.read canWait point q).1.Unfinished := by
  intro next reading
  simp only [read] at reading
  cases seat.consumer.readStep_rests q canWait unfinished with
  | ends awake result ended =>
    rw [ended] at reading
    cases reading
  | sleeps reason lane slept status later same asks =>
    rw [same] at reading
    cases reading
    exact later

/-- The reader is asleep after the step of a read that was lulled. -/
theorem read_asleep_iff (seat : ConsumerSeat) (q : Queue) (canWait : Bool) {point : ReadPoint}
    (unfinished : point.Unfinished) :
    (∃ next, (seat.read canWait point q).1.reading = some next) ↔
      (q.lane seat.consumer.index).slot.Lulls canWait point := by
  simp only [read]
  cases seat.consumer.readStep_rests q canWait unfinished with
  | ends awake result ended =>
    rw [ended]
    refine iff_of_false ?_ awake
    rintro ⟨next, asleep⟩
    cases asleep
  | sleeps reason lane next status later slept asks =>
    rw [slept]
    exact iff_of_true ⟨next, rfl⟩ reason

theorem Unfinished.step (unfinished : seat.Unfinished) (q : Queue) (move : ConsumerMove) :
    (seat.step q move).1.Unfinished := by
  obtain ⟨c, reading, isOpen, turn⟩ := seat
  cases isOpen with
  | false => exact unfinished
  | true =>
    cases move with
    | read canWait =>
      cases reading with
      | none => exact read_unfinished ⟨c, none, true, turn⟩ q canWait .row trivial
      | some point => exact unfinished
    | resume =>
      cases reading with
      | none => exact unfinished
      | some point =>
        exact read_unfinished ⟨c, some point, true, turn⟩ q true point (unfinished point rfl)
    | abandon live =>
      cases reading with
      | none => exact unfinished
      | some point =>
        simp only [ConsumerSeat.step]
        cases live.check with
        | ok _ => exact unfinished
        | error cause => exact .of_awake rfl
    | leave =>
      cases reading with
      | none => exact .of_awake rfl
      | some point => exact unfinished
    | drop =>
      cases reading with
      | none => exact .of_awake rfl
      | some point => exact unfinished

end ConsumerSeat

namespace Commons

variable {x : Commons}

/-- No read that sleeps has got all of a long record. -/
def Unfinished (x : Commons) : Prop := ∀ seat ∈ x.consumers, seat.Unfinished

theorem Unfinished.of_same {y : Commons} (unfinished : x.Unfinished)
    (same : y.consumers = x.consumers) : y.Unfinished := by
  rw [Unfinished, same]
  exact unfinished

theorem Unfinished.perform (unfinished : x.Unfinished) (move : Move) :
    (x.perform move).Unfinished := by
  cases move with
  | acquire live session name consumers =>
    refine unfinished.of_same ?_
    simp only [Commons.perform, acquire]
    split
    · rfl
    · split
      · rfl
      · rfl
  | bind live session name consumerNodes distribution limit =>
    simp only [Commons.perform, bind]
    split
    · exact unfinished
    · intro seat member
      rcases List.mem_append.mp member with before | new
      · exact unfinished seat before
      · rw [List.mem_singleton.mp new]
        exact .of_awake rfl
    · exact unfinished
  | release live session name =>
    refine unfinished.of_same ?_
    simp only [Commons.perform, release]
    split
    · rfl
    · rfl
  | disconnect live session name => exact unfinished
  | produce k move =>
    refine unfinished.of_same ?_
    simp only [Commons.perform, produce]
    split
    · rfl
    · rfl
  | consume k move =>
    simp only [Commons.perform, consume]
    split
    · exact unfinished
    · rename_i seat here
      intro other member
      rcases List.mem_or_eq_of_mem_set member with before | rfl
      · exact unfinished other before
      · exact (unfinished seat (List.mem_of_getElem? here)).step _ move

/-- Whether the consumer that was bound as number `k` is asleep inside a read. -/
def Asleep (x : Commons) (k : Nat) : Prop :=
  ∃ seat point, x.consumers[k]? = some seat ∧ seat.reading = some point

theorem asleep_consume_iff {k : Nat} {seat : ConsumerSeat} (here : x.consumers[k]? = some seat)
    (move : ConsumerMove) : (x.perform (.consume k move)).Asleep k ↔
      ∃ point, (seat.step (x.memory.queue seat.consumer.handle) move).1.reading = some point := by
  obtain ⟨inside, -⟩ := List.getElem?_eq_some_iff.mp here
  have placed : (x.perform (.consume k move)).consumers[k]? =
      some (seat.step (x.memory.queue seat.consumer.handle) move).1 := by
    simp only [perform, consume, here]
    exact List.getElem?_set_self inside
  constructor
  · rintro ⟨other, point, found, reading⟩
    rw [placed] at found
    cases found
    exact ⟨point, reading⟩
  · rintro ⟨point, reading⟩
    exact ⟨_, point, placed, reading⟩

theorem Unfinished.run (c : Config) (creator : ProcessId) (moves : List Move) :
    ((start c creator).run moves).Unfinished := by
  have start : (start c creator).Unfinished := fun _ member => nomatch member
  exact run_induction start (fun _ move before => before.perform move) moves

/-- After every run, whatever read a consumer begins or goes on with: it goes to sleep beside a slot
that is not active exactly if it overlooks what happened to the slot. Wherever it sleeps, it has
left the slot's status as it was and cleared its latch. A failure it does not overlook it reports,
once there are no more rows to read or in the middle of a long record. -/
theorem asleep_beside_closed_iff (c : Config) (creator : ProcessId) (moves : List Move) :
    let x := (start c creator).run moves
    ∀ (k : Nat) (seat : ConsumerSeat) (move : ConsumerMove) (canWait : Bool) (point : ReadPoint),
      x.consumers[k]? = some seat → seat.takesUp move = some (canWait, point) →
      let slot := (x.laneOf seat).slot
      let after := (x.perform (.consume k move)).laneOf seat
      ((x.perform (.consume k move)).Asleep k ∧ slot.status ≠ .active ↔ slot.Overlooked point) ∧
      ((x.perform (.consume k move)).Asleep k →
        after.slot.status = slot.status ∧ after.latch.isSet = false) ∧
      (slot.status = .error → (point = .row → slot.ring.rows = 0) →
        (seat.consumer.readStep canWait point (x.memory.queue seat.consumer.handle)).2.2 =
          .ended (.error (.producerFailed seat.consumer.handle.name seat.consumer.index .error))) := by
  intro x k seat move canWait point here reads slot after
  have founded : x.Founded := (Founded.start c creator).run moves
  have unfinished : x.Unfinished := Unfinished.run c creator moves
  have member := List.mem_of_getElem? here
  have held : seat.holding ∈ x.ledger.consumers := List.mem_map_of_mem member
  have has : x.memory.Has seat.consumer.handle :=
    (founded.built.serves (founded.sound.consumers _ held)).has
  let q := x.memory.queue seat.consumer.handle
  have moved := ConsumerSeat.step_of_takesUp (q := q) reads
  have left : after = (seat.consumer.readStep canWait point q).1.lane seat.consumer.index := by
    change (x.perform (.consume k move)).laneOf seat = _
    simp only [laneOf, perform, consume, here, Segment.lane]
    rw [has.queue_setQueue]
    change (seat.step q move).2.lane _ = _
    rw [moved]
    rfl
  have standing := (unfinished seat member).takesUp reads
  have asleep : (x.perform (.consume k move)).Asleep k ↔ slot.Lulls canWait point := by
    rw [asleep_consume_iff here, moved, seat.read_asleep_iff q canWait standing]
    rfl
  rw [asleep, left]
  exact ⟨Slot.overlooked_iff, Consumer.readStep_leaves standing, Consumer.readStep_failed⟩

/-- A producer writes a record that is longer than its consumer's buffer, sends the first chunk of
it, and fails. -/
def failedInside : List Move :=
  [.acquire undisturbed ⟨100, 0⟩ "rows" 1, .acquire undisturbed ⟨101, 1⟩ "rows" 1,
    .bind undisturbed ⟨100, 0⟩ "rows" [1] [0, 1] 64,
    .bind undisturbed ⟨101, 1⟩ "rows" [1] [0, 1] 64,
    .produce 0 (.call (.write 0 [1, 2])), .produce 0 (.call .finish), .produce 0 (.unbind true),
    .produce 0 (.close undisturbed)]

/-- A consumer that begins to read then overlooks the failure, and falls asleep. -/
theorem asleep_beside_closed_iff_failedInside :
    ∃ seat, ((start narrow 1).run failedInside).consumers = [seat] ∧
      seat.takesUp (.read true) = some (true, .row) ∧
      (((start narrow 1).run failedInside).laneOf seat).slot.Overlooked .row ∧
      (((start narrow 1).run failedInside).perform (.consume 0 (.read true))).Asleep 0 := by
  have stands : ((start narrow 1).run failedInside).consumers.map (fun seat =>
      let slot := (((start narrow 1).run failedInside).laneOf seat).slot
      (seat.takesUp (.read true), slot.ring.count, slot.ring.chunk, slot.ring.readLength.1,
        slot.status)) = [(some (true, .row), .rows 1, 1, 2, .error)] := by decide +kernel
  obtain ⟨seat, alone, found⟩ := List.map_eq_singleton_iff.mp stands
  simp only [Prod.mk.injEq] at found
  obtain ⟨reads, only, chunk, length, failed⟩ := found
  have here : ((start narrow 1).run failedInside).consumers[0]? = some seat := by
    rw [alone]
    rfl
  have overlooked : (((start narrow 1).run failedInside).laneOf seat).slot.Overlooked .row := by
    refine .beginning only ?_ ?_
    · rw [chunk, length]
      exact Nat.one_lt_two
    · rw [failed]
      exact SlotStatus.noConfusion
  have asleep := (asleep_beside_closed_iff narrow 1 failedInside 0 seat (.read true) true .row here
    reads).1.mpr overlooked
  exact ⟨seat, alone, reads, overlooked, asleep.1⟩

/-- It takes the chunk, clears the latch that told of the failure, and waits for another chunk. -/
theorem asleep_beside_failed_slot :
    let x := (start narrow 1).run failedInside
    x.consumers.map (fun seat => ((x.laneOf seat).slot.status, (x.laneOf seat).latch.isSet)) =
        [(.error, true)] ∧
      (x.perform (.consume 0 (.read true))).consumers.map (fun seat =>
        (seat.reading, ((x.perform (.consume 0 (.read true))).laneOf seat).slot.status,
          ((x.perform (.consume 0 (.read true))).laneOf seat).latch.isSet)) =
        [(some (.chunk ⟨2, [1]⟩), .error, false)] := by
  decide +kernel

end Commons

end RecordExchange
