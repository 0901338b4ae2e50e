import RecordExchange.Producer

set_option autoImplicit false

/-!
The two operations of a producer that may wait: draining, and unbinding.

Both sleep on the producer's latch between passes over the outlets. Everything between two sleeps
is a chain of steps, each of which holds the locks it needs from its beginning to its end; an
operation that has not ended is kept as the point at which it goes on.
-/

namespace RecordExchange

inductive DrainStep where
  /-- Draining is over; the number says for how many slots something is still held back. -/
  | ended (result : Except Error Nat)
  /-- Something is held back for so many slots, and the producer waits for room. -/
  | waits (pending : Nat)

inductive ClosePass where
  /-- Moving what is held back. -/
  | flush
  /-- Looking for consumers that are not done. -/
  | sweep
  deriving DecidableEq, Repr

/-- Where unbinding goes on. -/
inductive ClosePoint where
  | run (pass : ClosePass)
  /-- A consumer signalled while the producer waited after a pass. -/
  | woken (pass : ClosePass)
  /-- Nobody signalled in time. -/
  | timedOut (pass : ClosePass)
  /-- No consumer has to be waited for. -/
  | settle
  deriving DecidableEq, Repr

inductive CloseStep where
  | goesOn (point : ClosePoint)
  /-- The producer waits on its latch. -/
  | waits (pass : ClosePass)
  | ended (result : Except Error Unit)

namespace Producer

def drainStep (p : Producer) (q : Queue) : Producer × Queue × DrainStep :=
  match p.finish q with
  | (p, q, .error cause) => (p, q, .ended (.error cause))
  | (p, q, .ok 0) => (p, q, .ended (.ok 0))
  | (p, q, .ok pending) => (p, q, .waits pending)

def afterWait (q : Queue) : Queue := q.onProducerLatch Latch.reset

/-- What a sweep does to the lane of a consumer that has not come to an end. -/
def sweepLane (failed : Bool) (l : Lane) : Lane :=
  if failed then
    if l.slot.status = .active then (l.withStatus .error).wake else l
  else if l.slot.status ≠ .done then l.wake else l

/-- Whether a producer that has not failed must wait for the consumer of a lane. -/
def isAwaited (l : Lane) : Bool := l.slot.status != .done

/-- Whether a consumer is at work on a lane. -/
def isRunning (l : Lane) : Bool := l.slot.status == .active && l.slot.pid != 0

/-- Lets go of the queue without waiting for anybody: what is still active has failed. -/
def abandon (p : Producer) (s : Segment) : Producer × Segment :=
  let q := (s.queue p.handle).mapLanes fun l =>
    if l.slot.status = .active then (l.withStatus .error).wake else l
  let q := q.onProducerLatch Latch.disown
  (p.dropOverflow, (s.setQueue p.handle q).dropReference p.handle)

/-- Unbinding that met a failure abandons the queue and reports the failure. -/
def closeFailed (p : Producer) (s : Segment) (cause : Error) : Producer × Segment × CloseStep :=
  let (p, s) := p.abandon s
  (p, s, .ended (.error cause))

/-- How unbinding begins: a producer that failed delivers nothing more. -/
def closeStart (p : Producer) (failed : Bool) : Producer × ClosePoint :=
  if failed then (p.dropOverflow, .run .sweep) else (p, .run .flush)

def closeStep (p : Producer) (s : Segment) (failed : Bool) (live : Liveness) :
    ClosePoint → Producer × Segment × CloseStep
  | .run .flush =>
    match p.finish (s.queue p.handle) with
    | (p, q, .error cause) => p.closeFailed (s.setQueue p.handle q) cause
    | (p, q, .ok 0) => (p, s.setQueue p.handle q, .goesOn (.run .sweep))
    | (p, q, .ok _) => (p, s.setQueue p.handle q, .waits .flush)
  | .woken .flush =>
    (p, s.setQueue p.handle (afterWait (s.queue p.handle)), .goesOn (.run .flush))
  | .timedOut .flush =>
    (p, s.setQueue p.handle (resetNotConnected (afterWait (s.queue p.handle))).2,
      .goesOn (.run .flush))
  | .run .sweep =>
    let q := s.queue p.handle
    let awaited := !failed && q.lanes.any isAwaited
    let q := q.mapLanes (sweepLane failed)
    if awaited then (p, s.setQueue p.handle (q.onProducerLatch Latch.reset), .waits .sweep)
    else (p, s.setQueue p.handle q, .goesOn .settle)
  | .woken .sweep => (p, s, .goesOn (.run .sweep))
  | .timedOut .sweep =>
    (p, s.setQueue p.handle (resetNotConnected (s.queue p.handle)).2, .goesOn (.run .sweep))
  | .settle =>
    match live.check with
    | .error cause => p.closeFailed s cause
    | .ok () =>
      let q := s.queue p.handle
      if q.lanes.any isRunning then (p, s, .goesOn (.run .sweep))
      else
        (p, (s.setQueue p.handle (q.onProducerLatch Latch.disown)).dropReference p.handle,
          .ended (.ok ()))

end Producer

end RecordExchange
