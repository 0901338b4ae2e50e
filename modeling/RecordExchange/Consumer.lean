import RecordExchange.Segment.Basic

set_option autoImplicit false

/-!
The reading side of a queue, attached to one slot.

A read that finds nothing may sleep on the slot's latch; so may one in the middle of a long record.
Everything between two sleeps is one step. A read that has not ended is kept as the place where it
sleeps, and goes on from there when it wakes.
-/

namespace RecordExchange

/-- A process's hold on a slot. -/
structure Consumer where
  handle : Handle
  session : Session
  /-- The slot it reads from. -/
  index : Nat
  /-- It read to the end, met a failure, or stopped reading. -/
  finished : Bool
  deriving DecidableEq, Repr, Inhabited

inductive ReadOutcome where
  | record (payload : Record)
  /-- The producer has finished and everything was read. -/
  | eof
  /-- Nothing is queued and the caller does not want to wait. -/
  | wouldBlock
  deriving DecidableEq, Repr

/-- Where a read stands between two of its steps. -/
inductive ReadPoint where
  /-- It looks for a row, at its beginning or after a sleep on an empty buffer. -/
  | row
  /-- It sleeps until the next chunk of a long record is there. -/
  | chunk (record : LongRecord)
  deriving DecidableEq, Repr

inductive ReadStep where
  /-- The read is over. -/
  | ended (result : Except Error ReadOutcome)
  /-- The reader sleeps on its latch. -/
  | sleeps (point : ReadPoint)

namespace Consumer

/-- Ends at an assertion that does not hold, with the buffer as it is by then. -/
def abort (c : Consumer) (q : Queue) (ring : Ring) : Queue × Consumer × ReadStep :=
  (q.setLane c.index ((q.lane c.index).withRing ring), c, .ended (.error .panicked))

def deliver (c : Consumer) (q : Queue) (ring : Ring) (payload : Record) :
    Queue × Consumer × ReadStep :=
  if ring.takeRow.isSettled then
    (q.setLane c.index ((q.lane c.index).withRing ring.takeRow).countRead, c,
      .ended (.ok (.record payload)))
  else c.abort q ring.takeRow

/-- Goes to sleep with a clear latch, after letting the producer know that room was made. -/
def sleep (c : Consumer) (q : Queue) (lane : Lane) (point : ReadPoint) :
    Queue × Consumer × ReadStep :=
  ((q.setLane c.index { lane with latch := lane.latch.reset }).wakeProducer, c, .sleeps point)

/-- Takes the next chunk of a long record. One that leaves something to come must be the only row;
where it is not, nothing but the bytes is taken. -/
def pull (c : Consumer) (q : Queue) (ring : Ring) (record : LongRecord)
    (remaining : Nat) : Queue × Consumer × ReadStep :=
  match ring.pullChunk record remaining with
  | (ring, record, true) => c.deliver q ring record.payload
  | (left, record, false) =>
    if ring.count = .rows 1 then c.sleep q ((q.lane c.index).withRing left) (.chunk record)
    else c.abort q (ring.get (min remaining ring.chunk)).2

/-- Ends at a slot that is closed. A failure of the producer is reported once and closes the slot
for good. -/
def fail (c : Consumer) (q : Queue) (status : SlotStatus) :
    Queue × Consumer × ReadStep :=
  if status = .done then
    (q, c, .ended (.error (.slotClosed c.handle.name c.index)))
  else
    let l := (q.lane c.index).withStatus .done
    ((q.setLane c.index { l with latch := l.latch.disown }).wakeProducer,
      { c with finished := true },
      .ended (.error (.producerFailed c.handle.name c.index status)))

/-- One step of a read, from where it stands to its end or its next sleep. -/
def readStep (c : Consumer) (canWait : Bool) (point : ReadPoint) (q : Queue) :
    Queue × Consumer × ReadStep :=
  let l := q.lane c.index
  match point with
  | .row =>
    if l.slot.ring.rows = 0 then
      match l.slot.status with
      | .eof =>
        let l := l.withStatus .done
        ((q.setLane c.index { l with latch := l.latch.disown }).wakeProducer,
          { c with finished := true }, .ended (.ok .eof))
      | .active =>
        if canWait then c.sleep q l .row else (q, c, .ended (.ok .wouldBlock))
      | status => c.fail q status
    else
      let (length, ring) := l.slot.ring.readLength
      if ring.isLong length then c.pull q ring (LongRecord.start length) length
      else
        let (payload, ring) := ring.readPayload length
        c.deliver q ring payload
  | .chunk record =>
    match l.slot.status with
    | .error => c.fail q .error
    | .done => c.fail q .done
    | _ =>
      if l.slot.ring.count = .longRecord then c.sleep q l (.chunk record)
      else
        match l.slot.ring.resumeLong record with
        | (ring, .error cause) =>
          (q.setLane c.index (l.withRing ring), c, .ended (.error cause))
        | (ring, .ok remaining) => c.pull q ring record remaining

/-- Stops reading: the slot is done and what is still queued is ignored. -/
def reset (c : Consumer) (q : Queue) : Queue × Consumer :=
  let c := { c with finished := true }
  let l := q.lane c.index
  if l.slot.status = .done then (q, c)
  else
    let closed := l.withStatus .done
    let closed := if 0 < l.slot.pid then { closed with latch := l.latch.disown } else closed
    ((q.setLane c.index closed).wakeProducer, c)

/-- Letting go of a consumer that has not come to an end stops its reading. -/
def drop (c : Consumer) (q : Queue) : Queue := if c.finished then q else (c.reset q).1

end Consumer

end RecordExchange
