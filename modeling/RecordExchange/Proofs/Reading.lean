import RecordExchange.Consumer
import RecordExchange.Proofs.Outlet
import RecordExchange.Proofs.Queue.Lanes

set_option autoImplicit false

/-!
From a buffer into a reader's hands.

One step of a read takes the row in front whole, begins or continues a long record, or finds
nothing to take. `Reads` lists what a step can do, in terms of the records the reader is still to
get and of the bytes of the first one that went before.
-/

namespace RecordExchange

-- comparing buffers must not run through their cells
attribute [local irreducible] Ring.storeFrom Ring.fetchFrom

/-- Whether a reader may still be served. -/
def Slot.IsOpen (s : Slot) : Prop := s.status = .active ∨ s.status = .eof

theorem Slot.not_isOpen_of_done {s : Slot} (done : s.status = .done) : ¬ s.IsOpen := by
  intro opened
  rw [IsOpen, done] at opened
  rcases opened with active | ended
  · cases active
  · cases ended

theorem Slot.not_isOpen_of_error {s : Slot} (failed : s.status = .error) : ¬ s.IsOpen := by
  intro opened
  rw [IsOpen, failed] at opened
  rcases opened with active | ended
  · cases active
  · cases ended

theorem Slot.isOpen_of_ne {s : Slot} (failed : s.status ≠ .error) (done : s.status ≠ .done) :
    s.IsOpen := by
  cases status : s.status with
  | active => exact .inl status
  | eof => exact .inr status
  | error => exact absurd status failed
  | done => exact absurd status done

/-- Whose place a slot is: the node it was handed to and the process that attached to it. -/
def Slot.holder (s : Slot) : Session := ⟨s.pid, s.node⟩

/-- The slots differ in neither buffer nor status. -/
structure Slot.Alike (s t : Slot) : Prop where
  ring : t.ring = s.ring
  status : t.status = s.status

namespace Ring

variable {r : Ring}

theorem pullChunk_rows (record : LongRecord) (n : Nat) (none : r.rows = 0) :
    (r.pullChunk record n).1.rows = 0 := by
  simp only [pullChunk]
  split
  · exact none
  · rfl

theorem takeRow_rows (none : r.rows = 0) : r.takeRow.rows = 0 := by
  have few : ¬ 1 < r.rows := by omega
  simp only [takeRow, few, ↓reduceIte]
  rfl

theorem resumeLong_rows (record : LongRecord) (none : r.rows = 0) :
    (r.resumeLong record).1.rows = 0 := by
  simp only [resumeLong]
  split
  · exact none
  · exact none

/-- What readers do to a buffer keeps `P`: they take bytes out, count a row off, and leave word of
how much of a long record they have. -/
structure ReadersKeep (P : Ring → Prop) : Prop where
  gets {r : Ring} (n : Nat) (before : P r) : P (r.get n).2
  takesRow {r : Ring} (before : P r) : P r.takeRow
  asks {r : Ring} (offset : Nat) (before : P r) :
    P { r with bytes := storeFrom r.bytes 0 (LengthWord.encode offset), count := .longRecord }

section ReadersKeep

variable {P : Ring → Prop} (keep : ReadersKeep P)
include keep

theorem ReadersKeep.pullChunk (record : LongRecord) (remaining : Nat) (before : P r) :
    P (r.pullChunk record remaining).1 := by
  have taken := keep.gets (min remaining r.chunk) before
  simp only [Ring.pullChunk]
  split
  · exact taken
  · exact keep.asks _ taken

theorem ReadersKeep.resumeLong (record : LongRecord) (before : P r) :
    P (r.resumeLong record).1 := by
  have taken := keep.gets LengthWord.size before
  simp only [Ring.resumeLong]
  split
  · exact taken
  · exact taken

end ReadersKeep

end Ring

namespace Consumer

variable {c : Consumer} {q : Queue} {canWait : Bool} {point : ReadPoint}

/-- A step of a read touches no slot but its own. -/
structure Frame (c : Consumer) (q : Queue) (after : Queue × Consumer × ReadStep) : Prop where
  consumers : after.1.consumers = q.consumers
  others : ∀ j, c.index ≠ j → after.1.lane j = q.lane j
  index : after.2.1.index = c.index

/-- What a step of a read comes to for its own lane. It makes no rows, it changes the status of its
slot only to close it, which takes its name off the latch, and the slot stays with whom it is. -/
inductive Works (c : Consumer) (q : Queue) (after : Queue × Consumer × ReadStep) : Prop
  /-- It ends without a change. -/
  | stays (result : Except Error ReadOutcome) (made : after = (q, c, .ended result))
  /-- It took something, and ends. -/
  | takes (lane : Lane) (rows : (q.lane c.index).slot.ring.rows = 0 → lane.slot.ring.rows = 0)
      (status : lane.slot.status = (q.lane c.index).slot.status)
      (result : Except Error ReadOutcome) (made : after = (q.setLane c.index lane, c, .ended result))
      (holder : lane.slot.holder = (q.lane c.index).slot.holder)
      (latch : lane.latch = (q.lane c.index).latch)
  /-- It sleeps, and may have taken a chunk before. -/
  | sleeps (lane : Lane) (rows : (q.lane c.index).slot.ring.rows = 0 → lane.slot.ring.rows = 0)
      (status : lane.slot.status = (q.lane c.index).slot.status) (next : ReadPoint)
      (made : after = c.sleep q lane next)
      (holder : lane.slot.holder = (q.lane c.index).slot.holder)
      (latch : lane.latch = (q.lane c.index).latch)
  /-- It closes a slot that is not active any more, and an open one only if no row is left. -/
  | closes (ended : (q.lane c.index).slot.status ≠ .active)
      (spent : (q.lane c.index).slot.IsOpen → (q.lane c.index).slot.ring.rows = 0) (lane : Lane)
      (rows : (q.lane c.index).slot.ring.rows = 0 → lane.slot.ring.rows = 0)
      (result : Except Error ReadOutcome)
      (made : after =
        ((q.setLane c.index lane).wakeProducer, { c with finished := true }, .ended result))
      (holder : lane.slot.holder = (q.lane c.index).slot.holder)
      (ring : lane.slot.ring = (q.lane c.index).slot.ring)
      (undone : (q.lane c.index).slot.status ≠ .done) (done : lane.slot.status = .done)
      (latch : lane.latch = (q.lane c.index).latch.disown)

/-- Handing a row out brings its record, unless the assertion about the rest does not hold. -/
theorem deliver_cases (c : Consumer) (q : Queue) (ring : Ring) (payload : Record) :
    ring.takeRow.isSettled = true ∧ c.deliver q ring payload =
        (q.setLane c.index ((q.lane c.index).withRing ring.takeRow).countRead, c,
          .ended (.ok (.record payload))) ∨
      ring.takeRow.isSettled = false ∧ c.deliver q ring payload = c.abort q ring.takeRow := by
  cases settled : ring.takeRow.isSettled with
  | true => exact .inl ⟨rfl, if_pos settled⟩
  | false => exact .inr ⟨rfl, if_neg (Bool.eq_false_iff.mp settled)⟩

theorem deliver_result (c : Consumer) (q : Queue) (ring : Ring) (payload : Record) :
    (c.deliver q ring payload).2.2 = .ended (.ok (.record payload)) ∨
      (c.deliver q ring payload).2.2 = .ended (.error .panicked) := by
  rcases deliver_cases c q ring payload with ⟨-, made⟩ | ⟨-, made⟩
  · exact .inl (congrArg (·.2.2) made)
  · exact .inr (congrArg (·.2.2) made)

theorem abort_works (c : Consumer) (q : Queue) {ring : Ring}
    (rows : (q.lane c.index).slot.ring.rows = 0 → ring.rows = 0) :
    c.Works q (c.abort q ring) :=
  .takes ((q.lane c.index).withRing ring) rows rfl _ rfl rfl rfl

theorem deliver_works (c : Consumer) (q : Queue) {ring : Ring} (payload : Record)
    (rows : (q.lane c.index).slot.ring.rows = 0 → ring.rows = 0) :
    c.Works q (c.deliver q ring payload) := by
  have left := fun none => Ring.takeRow_rows (rows none)
  rcases deliver_cases c q ring payload with ⟨-, made⟩ | ⟨-, made⟩
  · rw [made]
    exact .takes ((q.lane c.index).withRing ring.takeRow).countRead left rfl _ rfl rfl rfl
  · rw [made]
    exact abort_works c q left

theorem pull_works (c : Consumer) (q : Queue) {ring : Ring} (record : LongRecord) (remaining : Nat)
    (rows : (q.lane c.index).slot.ring.rows = 0 → ring.rows = 0) :
    c.Works q (c.pull q ring record remaining) := by
  have chunk := fun none => Ring.pullChunk_rows record remaining (rows none)
  rw [pull]
  split
  · rename_i pulled
    rw [pulled] at chunk
    exact deliver_works c q _ chunk
  · rename_i left _ pulled
    rw [pulled] at chunk
    split
    · exact .sleeps ((q.lane c.index).withRing left) chunk rfl _ rfl rfl rfl
    · exact abort_works c q rows

theorem fail_works (c : Consumer) (q : Queue) {status : SlotStatus}
    (same : (q.lane c.index).slot.status = status) (closed : status ≠ .active)
    (spent : (q.lane c.index).slot.IsOpen → (q.lane c.index).slot.ring.rows = 0) :
    c.Works q (c.fail q status) := by
  have ended : (q.lane c.index).slot.status ≠ .active := same ▸ closed
  rw [fail]
  split
  · exact .stays _ rfl
  · rename_i undone
    refine .closes ended spent _ ?_ _ rfl rfl rfl (same ▸ undone) rfl rfl
    exact id

theorem readStep_works (c : Consumer) (canWait : Bool) (point : ReadPoint) (q : Queue) :
    c.Works q (c.readStep canWait point q) := by
  cases point with
  | row =>
    simp only [readStep]
    split
    · rename_i none
      split
      · rename_i eof
        have ended : (q.lane c.index).slot.status ≠ .active := by
          rw [eof]
          exact SlotStatus.noConfusion
        have undone : (q.lane c.index).slot.status ≠ .done := by
          rw [eof]
          exact SlotStatus.noConfusion
        refine .closes ended (fun _ => none) _ ?_ _ rfl rfl rfl undone rfl rfl
        exact id
      · split
        · exact .sleeps (q.lane c.index) id rfl _ rfl rfl rfl
        · exact .stays _ rfl
      · rename_i inactive
        exact fail_works c q rfl inactive fun _ => none
    · rename_i some
      split
      · exact pull_works c q _ _ fun none => absurd none some
      · exact deliver_works c q _ fun none => absurd none some
  | chunk record =>
    simp only [readStep]
    split
    · rename_i failed
      exact fail_works c q failed SlotStatus.noConfusion
        fun opened => absurd opened (Slot.not_isOpen_of_error failed)
    · rename_i done
      exact fail_works c q done SlotStatus.noConfusion
        fun opened => absurd opened (Slot.not_isOpen_of_done done)
    · split
      · exact .sleeps (q.lane c.index) id rfl _ rfl rfl rfl
      · have rows := fun none : (q.lane c.index).slot.ring.rows = 0 =>
          Ring.resumeLong_rows record none
        split
        · rename_i left _ resumed
          rw [resumed] at rows
          exact .takes ((q.lane c.index).withRing left) rows rfl _ rfl rfl rfl
        · rename_i resumed
          rw [resumed] at rows
          exact pull_works c q _ _ rows

theorem readStep_frame (c : Consumer) (canWait : Bool) (point : ReadPoint) (q : Queue) :
    c.Frame q (c.readStep canWait point q) := by
  have put (lane : Lane) (after : Consumer) (same : after.index = c.index) (step : ReadStep) :
      c.Frame q (q.setLane c.index lane, after, step) :=
    ⟨Queue.setLane_consumers .., fun _ other => Queue.lane_setLane_other q other _, same⟩
  have woken {after : Queue × Consumer × ReadStep} (frame : c.Frame q after) :
      c.Frame q (after.1.wakeProducer, after.2) := ⟨frame.consumers, frame.others, frame.index⟩
  cases readStep_works c canWait point q with
  | stays result made =>
    rw [made]
    exact ⟨rfl, fun _ _ => rfl, rfl⟩
  | takes lane rows status result made =>
    rw [made]
    exact put lane c rfl _
  | sleeps lane rows status next made =>
    rw [made]
    exact woken (put _ c rfl _)
  | closes ended spent lane rows result made =>
    rw [made]
    exact woken (put lane { c with finished := true } rfl _)

theorem reset_frame (c : Consumer) (q : Queue) :
    (c.reset q).1.consumers = q.consumers ∧
      (∀ j, c.index ≠ j → (c.reset q).1.lane j = q.lane j) ∧ (c.reset q).2.index = c.index := by
  simp only [reset]
  split
  · exact ⟨rfl, fun _ _ => rfl, rfl⟩
  · exact ⟨Queue.setLane_consumers .., fun _ other => Queue.lane_setLane_other q other _, rfl⟩

section Slots

variable (inside : c.index < q.consumers)
include inside

theorem reset_slot :
    ((c.reset q).1.lane c.index).slot = (q.lane c.index).slot ∨
      ((c.reset q).1.lane c.index).slot.ring = (q.lane c.index).slot.ring ∧
        ((c.reset q).1.lane c.index).slot.status = .done := by
  simp only [reset]
  split
  · exact .inl rfl
  · right
    rw [Queue.wakeProducer_lane, Queue.lane_setLane_self inside]
    split
    · exact ⟨rfl, rfl⟩
    · exact ⟨rfl, rfl⟩

theorem abort_slot (ring : Ring) :
    ((c.abort q ring).1.lane c.index).slot.ring = ring ∧
      ((c.abort q ring).1.lane c.index).slot.status = (q.lane c.index).slot.status := by
  rw [abort, Queue.lane_setLane_self inside]
  exact ⟨rfl, rfl⟩

theorem deliver_slot (ring : Ring) (payload : Record) :
    ((c.deliver q ring payload).1.lane c.index).slot.ring = ring.takeRow ∧
      ((c.deliver q ring payload).1.lane c.index).slot.status =
        (q.lane c.index).slot.status := by
  rcases deliver_cases c q ring payload with ⟨-, made⟩ | ⟨-, made⟩
  · rw [made, Queue.lane_setLane_self inside]
    exact ⟨rfl, rfl⟩
  · rw [made]
    exact abort_slot inside _

theorem sleep_slot (lane : Lane) (point : ReadPoint) :
    ((c.sleep q lane point).1.lane c.index).slot = lane.slot := by
  simp only [sleep, Queue.wakeProducer_lane]
  rw [Queue.lane_setLane_self inside]

/-- A slot that failed or is done is done afterwards, and the failure is reported as such. -/
theorem fail_slot (status : SlotStatus) (same : (q.lane c.index).slot.status = status) :
    ((c.fail q status).1.lane c.index).slot.ring = (q.lane c.index).slot.ring ∧
      ((c.fail q status).1.lane c.index).slot.status = .done ∧
      ∃ cause, (c.fail q status).2.2 = .ended (.error cause) ∧
        (∀ expected actual, cause ≠ .longRecordMismatch expected actual) ∧ cause ≠ .panicked := by
  rw [fail]
  split
  · rename_i done
    exact ⟨rfl, same.trans done, _, rfl, fun _ _ => Error.noConfusion, Error.noConfusion⟩
  · simp only [Queue.wakeProducer_lane]
    rw [Queue.lane_setLane_self inside]
    exact ⟨rfl, rfl, _, rfl, fun _ _ => Error.noConfusion, Error.noConfusion⟩

section ReadersKeep

variable {P : Ring → Prop} (keep : Ring.ReadersKeep P)
include keep

theorem pull_keeps {ring : Ring} (record : LongRecord) (remaining : Nat) (before : P ring) :
    P ((c.pull q ring record remaining).1.lane c.index).slot.ring := by
  have taken := keep.pullChunk record remaining before
  unfold pull
  split
  · rename_i pulled
    rw [pulled] at taken
    rw [(deliver_slot inside _ _).1]
    exact keep.takesRow taken
  · rename_i pulled
    rw [pulled] at taken
    split
    · rw [sleep_slot inside]
      exact taken
    · rw [(abort_slot inside _).1]
      exact keep.gets _ before

/-- Whatever a read finds, its own buffer keeps what all it can do to it keeps. -/
theorem readStep_keeps (canWait : Bool) (point : ReadPoint)
    (before : P (q.lane c.index).slot.ring) :
    P ((c.readStep canWait point q).1.lane c.index).slot.ring := by
  have failed {status : SlotStatus} (same : (q.lane c.index).slot.status = status) :
      P ((c.fail q status).1.lane c.index).slot.ring := by
    rw [(fail_slot inside status same).1]
    exact before
  cases point with
  | row =>
    simp only [readStep]
    split
    · split
      · rw [Queue.wakeProducer_lane, Queue.lane_setLane_self inside]
        exact before
      · split
        · rw [sleep_slot inside]
          exact before
        · exact before
      · exact failed rfl
    · have word := keep.gets LengthWord.size before
      split
      · exact pull_keeps inside keep _ _ word
      · rw [(deliver_slot inside _ _).1]
        exact keep.takesRow (keep.gets _ word)
  | chunk record =>
    simp only [readStep]
    split
    · rename_i status
      exact failed status
    · rename_i status
      exact failed status
    · split
      · rw [sleep_slot inside]
        exact before
      · have word := keep.resumeLong record before
        split
        · rename_i resumed
          rw [resumed] at word
          rw [Queue.lane_setLane_self inside]
          exact word
        · rename_i resumed
          rw [resumed] at word
          exact pull_keeps inside keep _ _ word

end ReadersKeep

end Slots

end Consumer

/-- What one step of a read that stands at a point can do with a slot whose reader is still to get
`queue`, `skip` bytes of the first record having gone before: the slot and the step after it, and
what the reader is still to get then. -/
inductive Reads (slot : Slot) (skip : Nat) (queue : List Record) :
    ReadPoint → Slot → ReadStep → Nat → List Record → Prop where
  /-- There is nothing to read, and the reader does not wait for it. -/
  | blocks {after : Slot} (none : slot.ring.rows = 0) (alike : slot.Alike after) :
      Reads slot skip queue .row after (.ended (.ok .wouldBlock)) skip queue
  /-- There is nothing to go on with. -/
  | sleeps {point : ReadPoint} {after : Slot} (idle : point = .row → slot.ring.rows = 0)
      (alike : slot.Alike after) :
      Reads slot skip queue point after (.sleeps point) skip queue
  /-- The reader got everything. -/
  | ends {after : Slot} (none : slot.ring.rows = 0) (finished : slot.status = .eof)
      (whole : skip = 0) (nothing : queue = []) :
      Reads slot skip queue .row after (.ended (.ok .eof)) skip queue
  /-- The slot is closed. -/
  | fails {point : ReadPoint} {after : Slot} {cause : Error}
      (idle : point = .row → slot.ring.rows = 0) (closed : ¬ slot.IsOpen)
      (ring : after.ring = slot.ring) (stays : ¬ after.IsOpen)
      (other : ∀ expected actual, cause ≠ .longRecordMismatch expected actual)
      (settled : cause ≠ .panicked) :
      Reads slot skip queue point after (.ended (.error cause)) skip queue
  /-- The row in front is handed out, without the bytes that went before. -/
  | takes {after : Slot} {first : Record} {rest : List Record} (front : queue = first :: rest)
      (inside : 0 < skip → skip < first.length) (rows : slot.ring.rows ≠ 0)
      (short : slot.ring.readLength.1 ≤ slot.ring.chunk) :
      Reads slot skip queue .row after (.ended (.ok (.record (first.drop skip)))) 0 rest
  /-- What is in front is taken for a long record, of the length that is left. -/
  | begins {after : Slot} {first : Record} {rest : List Record} (front : queue = first :: rest)
      (rows : slot.ring.rows ≠ 0) (positive : 0 < slot.ring.chunk)
      (more : slot.ring.chunk < first.length - skip)
      (length : slot.ring.readLength.1 = first.length - skip) :
      Reads slot skip queue .row after
        (.sleeps (.chunk ⟨first.length - skip, (first.drop skip).take slot.ring.chunk⟩))
        slot.ring.chunk queue
  /-- A long record goes on. -/
  | continues {after : Slot} {first : Record} {rest : List Record} (front : queue = first :: rest)
      (begun : 0 < skip) (more : slot.ring.chunk < first.length - skip) :
      Reads slot skip queue (.chunk (.beginning first skip)) after
        (.sleeps (.chunk (.beginning first (skip + slot.ring.chunk)))) (skip + slot.ring.chunk)
        queue
  /-- A long record is handed out. -/
  | completes {after : Slot} {first : Record} {rest : List Record} (front : queue = first :: rest) :
      Reads slot skip queue (.chunk (.beginning first skip)) after
        (.ended (.ok (.record first))) 0 rest
  /-- What is in front does not continue the record the reader has. -/
  | mismatches {after : Slot} {record : LongRecord} {first : Record} {rest : List Record}
      (opened : slot.IsOpen) (front : queue = first :: rest)
      (other : record.missing ≠ first.length - skip) :
      Reads slot skip queue (.chunk record) after
        (.ended (.error (.longRecordMismatch record.missing (first.length - skip)))) skip queue

/-- No assertion stops such a step: where one does not hold, the reader was told of a mismatch
before. -/
theorem Reads.settles {slot after : Slot} {skip skip' : Nat} {queue queue' : List Record}
    {point : ReadPoint} {step : ReadStep}
    (reads : Reads slot skip queue point after step skip' queue') :
    step ≠ .ended (.error .panicked) := by
  rintro rfl
  cases reads with
  | fails idle closed ring stays other settled => exact settled rfl

section Feeding

variable {keeps : Bool} {slot after : Slot} {held : Option OverflowStore} {s t : Transit}
  {rest : List Record}

theorem Feeds.advance (feeds : Feeds keeps slot held t rest) (carries : after.ring.Carries s)
    (status : after.status = slot.status) (kept : s.unfinished = t.unfinished) :
    Feeds keeps after held s rest := by
  refine ⟨carries, ?_, ?_⟩
  · rw [status, kept]
    exact feeds.stored
  · rw [status, kept]
    exact feeds.ended

theorem Feeds.close (feeds : Feeds keeps slot held t rest) (ring : after.ring = slot.ring)
    (closed : ¬ after.IsOpen) : Feeds keeps after held t rest :=
  ⟨ring ▸ feeds.carries, fun _ active => absurd (.inl active) closed,
    fun ended => absurd (.inr ended) closed⟩

/-- Where a read may stand: inside a long record it has taken a part of the record in front, or
what it has does not fit the bytes that follow. -/
def Placed (slot : Slot) (skip : Nat) (queue : List Record) (point : ReadPoint) : Prop :=
  ∀ record, point = .chunk record → slot.IsOpen →
    0 < skip ∧ ∃ first rest, queue = first :: rest ∧
      (record = .beginning first skip ∨ record.missing ≠ first.length - skip)

/-- One step of a read does one of the things listed, and unless it met a mismatch, the reader is
to get the rest after it. -/
def Advances (keeps : Bool) (held : Option OverflowStore) (skip : Nat) (queue : List Record)
    (slot : Slot) (point : ReadPoint) (after : Slot) (step : ReadStep) : Prop :=
  ∃ skip' queue', Reads slot skip queue point after step skip' queue' ∧
    ((∀ expected actual, step ≠ .ended (.error (.longRecordMismatch expected actual))) →
      Awaits keeps after held skip' queue')

end Feeding

namespace Consumer

variable {c : Consumer} {q : Queue} {canWait keeps : Bool} {held : Option OverflowStore}
  {t : Transit} {rest : List Record}

theorem pull_whole {ring next : Ring} {record whole : LongRecord} {remaining : Nat}
    (pulled : ring.pullChunk record remaining = (next, whole, true)) :
    c.pull q ring record remaining = c.deliver q next whole.payload := by
  rw [pull, pulled]

theorem pull_part {ring next : Ring} {record part : LongRecord} {remaining : Nat}
    (pulled : ring.pullChunk record remaining = (next, part, false)) (only : ring.count = .rows 1) :
    c.pull q ring record remaining =
      c.sleep q ((q.lane c.index).withRing next) (.chunk part) := by
  rw [pull, pulled]
  exact if_pos only

/-- A row brings its record where the assertion about the rest holds. -/
theorem deliver_brings (c : Consumer) (q : Queue) {ring : Ring}
    (settled : ring.takeRow.isSettled = true) (payload : Record) :
    (c.deliver q ring payload).2.2 = .ended (.ok (.record payload)) := by
  rw [deliver, if_pos settled]

/-- A read that wakes up beside an open slot and finds what continues its record. -/
theorem readStep_resumes {record : LongRecord} {ring : Ring} {remaining : Nat}
    (opened : (q.lane c.index).slot.IsOpen) (some : (q.lane c.index).slot.ring.rows ≠ 0)
    (resumed : (q.lane c.index).slot.ring.resumeLong record = (ring, .ok remaining)) :
    c.readStep canWait (.chunk record) q = c.pull q ring record remaining := by
  have unmarked : (q.lane c.index).slot.ring.count ≠ .longRecord :=
    fun marked => some (Ring.rows_of_longRecord marked)
  rcases opened with active | ended
  · simp only [readStep, active, unmarked, resumed, ↓reduceIte]
  · simp only [readStep, ended, unmarked, resumed, ↓reduceIte]

theorem readStep_refuses {record : LongRecord} {ring : Ring} {cause : Error}
    (opened : (q.lane c.index).slot.IsOpen) (some : (q.lane c.index).slot.ring.rows ≠ 0)
    (resumed : (q.lane c.index).slot.ring.resumeLong record = (ring, .error cause)) :
    c.readStep canWait (.chunk record) q =
      (q.setLane c.index ((q.lane c.index).withRing ring), c, .ended (.error cause)) := by
  have unmarked : (q.lane c.index).slot.ring.count ≠ .longRecord :=
    fun marked => some (Ring.rows_of_longRecord marked)
  rcases opened with active | ended
  · simp only [readStep, active, unmarked, resumed, ↓reduceIte]
  · simp only [readStep, ended, unmarked, resumed, ↓reduceIte]

/-- A read that finds another number than that of the bytes it misses. -/
theorem readStep_mismatch {record : LongRecord} {first : Record} {more : List Record}
    (front : t.records ++ rest = first :: more) (opened : (q.lane c.index).slot.IsOpen)
    (some : (q.lane c.index).slot.ring.rows ≠ 0)
    (length : (q.lane c.index).slot.ring.readLength.1 = first.length - t.skip)
    (other : record.missing ≠ first.length - t.skip) :
    Advances keeps held t.skip (t.records ++ rest) (q.lane c.index).slot (.chunk record)
      ((c.readStep canWait (.chunk record) q).1.lane c.index).slot
      (c.readStep canWait (.chunk record) q).2.2 := by
  have resumed := Ring.resumeLong_of_ne (length ▸ other.symm)
  rw [readStep_refuses opened some resumed, length]
  exact ⟨_, _, .mismatches opened front other, fun unmatched => absurd rfl (unmatched _ _)⟩

section Steps

variable (inside : c.index < q.consumers)
  (feeds : Feeds keeps (q.lane c.index).slot held t rest)
include inside feeds

theorem fail_advances (point : ReadPoint)
    (idle : point = .row → (q.lane c.index).slot.ring.rows = 0)
    (closed : ¬ (q.lane c.index).slot.IsOpen) :
    Advances keeps held t.skip (t.records ++ rest) (q.lane c.index).slot point
      ((c.fail q (q.lane c.index).slot.status).1.lane c.index).slot
      (c.fail q (q.lane c.index).slot.status).2.2 := by
  obtain ⟨ring, done, cause, step, other, settled⟩ := fail_slot inside _ rfl
  have stays := Slot.not_isOpen_of_done done
  rw [step]
  exact ⟨_, _, .fails idle closed ring stays other settled, fun _ =>
    ⟨t, rest, feeds.close ring stays, rfl, rfl⟩⟩

theorem readStep_none (none : (q.lane c.index).slot.ring.rows = 0) :
    Advances keeps held t.skip (t.records ++ rest) (q.lane c.index).slot .row
      ((c.readStep canWait .row q).1.lane c.index).slot (c.readStep canWait .row q).2.2 := by
  simp only [readStep, none, ↓reduceIte]
  split
  · rename_i finished
    obtain ⟨sent, nothing⟩ := feeds.ended finished
    have closed : ¬ (((q.lane c.index).withStatus .done).slot).IsOpen :=
      Slot.not_isOpen_of_done rfl
    rw [Queue.wakeProducer_lane, Queue.lane_setLane_self inside]
    cases t with
    | chunk skip record => cases sent
    | request skip record => cases sent
    | rows skip records =>
      have carries : (q.lane c.index).slot.ring.CarriesRows skip records := feeds.carries
      obtain rfl := carries.rows_eq_zero_iff.mp none
      subst nothing
      exact ⟨_, _, .ends none finished carries.skip_eq_zero rfl, fun _ =>
        ⟨.rows skip [], [], feeds.close rfl closed, rfl, rfl⟩⟩
  · split
    · rw [sleep_slot inside]
      exact ⟨_, _, .sleeps (fun _ => none) ⟨rfl, rfl⟩, fun _ => ⟨t, rest, feeds, rfl, rfl⟩⟩
    · exact ⟨_, _, .blocks none ⟨rfl, rfl⟩, fun _ => ⟨t, rest, feeds, rfl, rfl⟩⟩
  · rename_i failed finished
    have closed : ¬ (q.lane c.index).slot.IsOpen := by
      intro opened
      rcases opened with active | ended
      · exact finished active
      · exact failed ended
    exact fail_advances inside feeds .row (fun _ => none) closed

theorem readStep_rows {skip : Nat} {first : Record} {more : List Record}
    (front : t = .rows skip (first :: more)) :
    Advances keeps held t.skip (t.records ++ rest) (q.lane c.index).slot .row
      ((c.readStep canWait .row q).1.lane c.index).slot (c.readStep canWait .row q).2.2 := by
  subst front
  have carries : (q.lane c.index).slot.ring.CarriesRows skip (first :: more) := feeds.carries
  obtain ⟨length, short, behind⟩ := carries.readLength
  have rows : (q.lane c.index).slot.ring.rows ≠ 0 := by
    rw [ne_eq, carries.rows_eq_zero_iff]
    exact List.cons_ne_nil _ _
  have whole : (q.lane c.index).slot.ring.readLength.2.isLong (first.length - skip) = false :=
    decide_eq_false (Nat.not_lt.mpr short)
  have payload := behind.get_fst
  have left := behind.get_snd
  rw [List.length_drop] at payload left
  have step : c.readStep canWait .row q = c.deliver q
      ((q.lane c.index).slot.ring.readLength.2.get (first.length - skip)).2 (first.drop skip) := by
    simp only [readStep, rows, ↓reduceIte, length, whole, Bool.false_eq_true, Ring.readPayload,
      payload]
  obtain ⟨ring, status⟩ := deliver_slot inside
    ((q.lane c.index).slot.ring.readLength.2.get (first.length - skip)).2 (first.drop skip)
  have begun (positive : 0 < skip) : skip < first.length := by
    obtain ⟨other, others, split, bound⟩ := carries.begun positive
    cases split
    exact bound
  have taken : ((q.lane c.index).slot.ring.readLength.2.get
      (first.length - skip)).2.takeRow.CarriesRows 0 more := carries.takeRow rfl rfl left
  have settled : ((q.lane c.index).slot.ring.readLength.2.get
      (first.length - skip)).2.takeRow.isSettled = true := carries.takeRow_isSettled rfl rfl left
  rw [step, deliver_brings c q settled]
  rw [← length] at short
  exact ⟨_, _, .takes rfl begun rows short, fun _ =>
    ⟨.rows 0 more, rest, feeds.advance (ring ▸ taken) status rfl, rfl, rfl⟩⟩

/-- A read that finds a chunk takes what is left of its record for a record of its own. -/
theorem readStep_chunk {skip : Nat} {first : Record} (front : t = .chunk skip first) :
    Advances keeps held t.skip (t.records ++ rest) (q.lane c.index).slot .row
      ((c.readStep canWait .row q).1.lane c.index).slot (c.readStep canWait .row q).2.2 := by
  subst front
  have carries : (q.lane c.index).slot.ring.CarriesChunk skip first := feeds.carries
  obtain ⟨length, behind⟩ := carries.readLength
  have more := carries.more
  have positive := Ring.chunk_pos carries.room
  have rows : (q.lane c.index).slot.ring.rows ≠ 0 := by
    rw [Ring.rows_of_count carries.count]
    exact Nat.one_ne_zero
  have long : (q.lane c.index).slot.ring.readLength.2.isLong (first.length - skip) = true :=
    decide_eq_true more
  have nothing : (LongRecord.start (first.length - skip)).offset = 0 := rfl
  have differs : (LongRecord.start (first.length - skip)).offset +
      (q.lane c.index).slot.ring.chunk ≠ (LongRecord.start (first.length - skip)).length := by
    change _ ≠ first.length - skip
    omega
  have bound : (LongRecord.start (first.length - skip)).offset +
      (q.lane c.index).slot.ring.chunk < first.length := by omega
  obtain ⟨asked, pulled, _, request⟩ :=
    Ring.pullChunk_more (r := (q.lane c.index).slot.ring.readLength.2)
      (LongRecord.start (first.length - skip)) carries.room behind more (Nat.le_of_lt more)
      carries.short differs bound
  have step : c.readStep canWait .row q = c.sleep q ((q.lane c.index).withRing asked)
      (.chunk ⟨first.length - skip, (first.drop skip).take (q.lane c.index).slot.ring.chunk⟩) := by
    simp only [readStep, rows, ↓reduceIte, length, long]
    exact pull_part pulled carries.count
  rw [nothing, Nat.zero_add] at request
  rw [step, sleep_slot inside]
  exact ⟨_, _, .begins rfl rows positive more length, fun _ =>
    ⟨.request (q.lane c.index).slot.ring.chunk first, rest, feeds.advance request rfl rfl, rfl,
      rfl⟩⟩

/-- A read that waits for the next chunk, which is not there. -/
theorem readStep_request {skip : Nat} {first : Record} (record : LongRecord)
    (front : t = .request skip first) (opened : (q.lane c.index).slot.IsOpen) :
    Advances keeps held t.skip (t.records ++ rest) (q.lane c.index).slot (.chunk record)
      ((c.readStep canWait (.chunk record) q).1.lane c.index).slot
      (c.readStep canWait (.chunk record) q).2.2 := by
  subst front
  have carries : (q.lane c.index).slot.ring.CarriesRequest skip first := feeds.carries
  have step : c.readStep canWait (.chunk record) q =
      c.sleep q (q.lane c.index) (.chunk record) := by
    rcases opened with active | ended
    · simp only [readStep, active, carries.count, ↓reduceIte]
    · simp only [readStep, ended, carries.count, ↓reduceIte]
  rw [step, sleep_slot inside]
  exact ⟨_, _, .sleeps nofun ⟨rfl, rfl⟩, fun _ => ⟨_, rest, feeds, rfl, rfl⟩⟩

theorem readStep_more {skip : Nat} {first : Record} (front : t = .chunk skip first)
    (opened : (q.lane c.index).slot.IsOpen) (begun : 0 < skip) :
    Advances keeps held t.skip (t.records ++ rest) (q.lane c.index).slot
      (.chunk (.beginning first skip))
      ((c.readStep canWait (.chunk (.beginning first skip)) q).1.lane c.index).slot
      (c.readStep canWait (.chunk (.beginning first skip)) q).2.2 := by
  subst front
  have carries : (q.lane c.index).slot.ring.CarriesChunk skip first := feeds.carries
  obtain ⟨length, behind⟩ := carries.readLength
  have more := carries.more
  have some : (q.lane c.index).slot.ring.rows ≠ 0 := by
    rw [Ring.rows_of_count carries.count]
    exact Nat.one_ne_zero
  have bound : skip ≤ first.length := by omega
  have offset := LongRecord.beginning_offset bound
  have missing := LongRecord.beginning_missing bound
  have resumed := Ring.resumeLong_of_eq (length.trans missing.symm)
  have differs : (LongRecord.beginning first skip).offset + (q.lane c.index).slot.ring.chunk ≠
      (LongRecord.beginning first skip).length := by
    change _ ≠ first.length
    omega
  have short : (LongRecord.beginning first skip).offset + (q.lane c.index).slot.ring.chunk <
      first.length := by omega
  obtain ⟨asked, pulled, _, request⟩ :=
    Ring.pullChunk_more (r := (q.lane c.index).slot.ring.readLength.2)
      (LongRecord.beginning first skip) carries.room behind more (Nat.le_of_lt more)
      carries.short differs short
  have joined : (LongRecord.beginning first skip).received ++
      (first.drop skip).take (q.lane c.index).slot.ring.chunk =
        first.take (skip + (q.lane c.index).slot.ring.chunk) := by
    rw [List.take_add]
    rfl
  have step : c.readStep canWait (.chunk (.beginning first skip)) q =
      c.sleep q ((q.lane c.index).withRing asked)
        (.chunk (.beginning first (skip + (q.lane c.index).slot.ring.chunk))) := by
    rw [readStep_resumes opened some resumed, missing]
    refine (pull_part pulled carries.count).trans ?_
    rw [Ring.readLength_chunk, joined]
    rfl
  rw [offset] at request
  rw [step, sleep_slot inside]
  exact ⟨_, _, .continues rfl begun more, fun _ =>
    ⟨.request (skip + (q.lane c.index).slot.ring.chunk) first, rest,
      feeds.advance request rfl rfl, rfl, rfl⟩⟩

theorem readStep_last {skip : Nat} {first : Record} {more : List Record}
    (front : t = .rows skip (first :: more)) (opened : (q.lane c.index).slot.IsOpen)
    (begun : 0 < skip) :
    Advances keeps held t.skip (t.records ++ rest) (q.lane c.index).slot
      (.chunk (.beginning first skip))
      ((c.readStep canWait (.chunk (.beginning first skip)) q).1.lane c.index).slot
      (c.readStep canWait (.chunk (.beginning first skip)) q).2.2 := by
  subst front
  have carries : (q.lane c.index).slot.ring.CarriesRows skip (first :: more) := feeds.carries
  obtain ⟨length, small, behind⟩ := carries.readLength
  have some : (q.lane c.index).slot.ring.rows ≠ 0 := by
    rw [ne_eq, carries.rows_eq_zero_iff]
    exact List.cons_ne_nil _ _
  have bound : skip ≤ first.length := by
    obtain ⟨other, others, split, less⟩ := carries.begun begun
    cases split
    exact Nat.le_of_lt less
  have missing := LongRecord.beginning_missing bound
  have remaining : (first.drop skip).length = first.length - skip := List.length_drop ..
  have resumed := Ring.resumeLong_of_eq (length.trans missing.symm)
  have size : (first.drop skip).length =
      min (first.length - skip) (q.lane c.index).slot.ring.readLength.2.chunk := by
    rw [remaining, Ring.readLength_chunk, Nat.min_eq_left small]
  have all : (LongRecord.beginning first skip).offset + (first.drop skip).length =
      (LongRecord.beginning first skip).length := by
    rw [LongRecord.beginning_offset bound, remaining]
    exact Nat.add_sub_cancel' bound
  have pulled := Ring.pullChunk_last _ behind size all
  have left := behind.get_snd
  have joined : (LongRecord.beginning first skip).received ++ first.drop skip = first :=
    List.take_append_drop ..
  have whole : LongRecord.payload ⟨first.length, first⟩ = first := LongRecord.payload_whole first
  have step : c.readStep canWait (.chunk (.beginning first skip)) q =
      c.deliver q ((q.lane c.index).slot.ring.readLength.2.get (first.drop skip).length).2
        first := by
    rw [readStep_resumes opened some resumed, missing]
    refine (pull_whole pulled).trans ?_
    rw [joined]
    exact congrArg (c.deliver q _) whole
  obtain ⟨ring, status⟩ := deliver_slot inside
    ((q.lane c.index).slot.ring.readLength.2.get (first.drop skip).length).2 first
  have taken : ((q.lane c.index).slot.ring.readLength.2.get
      (first.drop skip).length).2.takeRow.CarriesRows 0 more := carries.takeRow rfl rfl left
  have settled : ((q.lane c.index).slot.ring.readLength.2.get
      (first.drop skip).length).2.takeRow.isSettled = true :=
    carries.takeRow_isSettled rfl rfl left
  rw [step, deliver_brings c q settled]
  exact ⟨_, _, .completes rfl, fun _ =>
    ⟨.rows 0 more, rest, feeds.advance (ring ▸ taken) status rfl, rfl, rfl⟩⟩

theorem readStep_closed (record : LongRecord) (closed : ¬ (q.lane c.index).slot.IsOpen) :
    Advances keeps held t.skip (t.records ++ rest) (q.lane c.index).slot (.chunk record)
      ((c.readStep canWait (.chunk record) q).1.lane c.index).slot
      (c.readStep canWait (.chunk record) q).2.2 := by
  have step : c.readStep canWait (.chunk record) q =
      c.fail q (q.lane c.index).slot.status := by
    cases status : (q.lane c.index).slot.status with
    | active => exact absurd (.inl status) closed
    | eof => exact absurd (.inr status) closed
    | error => simp only [readStep, status]
    | done => simp only [readStep, status]
  rw [step]
  exact fail_advances inside feeds (.chunk record) nofun closed

/-- One step of a read, wherever it stands. -/
theorem readStep_advances (point : ReadPoint)
    (placed : Placed (q.lane c.index).slot t.skip (t.records ++ rest) point) :
    Advances keeps held t.skip (t.records ++ rest) (q.lane c.index).slot point
      ((c.readStep canWait point q).1.lane c.index).slot (c.readStep canWait point q).2.2 := by
  cases point with
  | row =>
    by_cases none : (q.lane c.index).slot.ring.rows = 0
    · exact readStep_none inside feeds none
    · cases t with
      | rows skip records =>
        cases records with
        | nil => exact absurd ((Ring.CarriesRows.rows_eq_zero_iff feeds.carries).mpr rfl) none
        | cons first more => exact readStep_rows inside feeds rfl
      | chunk skip record => exact readStep_chunk inside feeds rfl
      | request skip record =>
        exact absurd (Ring.rows_of_longRecord (Ring.CarriesRequest.count feeds.carries)) none
  | chunk record =>
    by_cases opened : (q.lane c.index).slot.IsOpen
    · obtain ⟨begun, first, others, front, follows⟩ := placed record rfl opened
      cases t with
      | request skip last => exact readStep_request inside feeds record rfl opened
      | chunk skip current =>
        have carries : (q.lane c.index).slot.ring.CarriesChunk skip current := feeds.carries
        cases front
        -- what the reader has is the beginning of this record, or the numbers differ
        rcases follows with rfl | other
        · exact readStep_more inside feeds rfl opened begun
        · have some : (q.lane c.index).slot.ring.rows ≠ 0 := by
            rw [Ring.rows_of_count carries.count]
            exact Nat.one_ne_zero
          exact readStep_mismatch rfl opened some carries.readLength.1 other
      | rows skip records =>
        have carries : (q.lane c.index).slot.ring.CarriesRows skip records := feeds.carries
        obtain ⟨current, more, rfl, _⟩ := carries.begun begun
        cases front
        rcases follows with rfl | other
        · exact readStep_last inside feeds rfl opened begun
        · have some : (q.lane c.index).slot.ring.rows ≠ 0 := by
            rw [ne_eq, carries.rows_eq_zero_iff]
            exact List.cons_ne_nil _ _
          exact readStep_mismatch rfl opened some carries.readLength.1 other
    · exact readStep_closed inside feeds record opened

end Steps

end Consumer

end RecordExchange
