import RecordExchange.Proofs.Queue.Outlets
import RecordExchange.Proofs.Reading

set_option autoImplicit false

/-!
A producer and its readers at work on one queue.

An exchange is the shared memory together with the parties at work on a queue in it, and with what
passed through each slot so far. Its parties act one at a time, in any order: a call that cannot
sleep is one action; a call that sleeps is one action up to its first sleep and one for each step
after that, so that any other action may come in between.
-/

namespace RecordExchange

/-- Where the producer of a queue stands. -/
inductive Stand where
  /-- It is bound to the queue and between two calls. -/
  | bound
  /-- It unbinds, and its next step is due. -/
  | closing (failed : Bool) (point : ClosePoint)
  /-- It unbinds, and sleeps on its latch. -/
  | asleep (failed : Bool) (pass : ClosePass)
  /-- It let go of the queue. -/
  | gone
  deriving DecidableEq

/-- Whether the step is inside a long record. -/
def ReadPoint.isInside : ReadPoint → Bool
  | .row => false
  | .chunk _ => true

/-- The reader of one slot, and what passed through the slot. -/
structure Port where
  consumer : Consumer
  /-- Where a read sleeps, while one does. -/
  reading : Option ReadPoint
  /-- A read ended inside a long record, and none has brought a record since. -/
  torn : Bool
  /-- A read reported that what is in front does not continue its record. -/
  mismatched : Bool
  /-- The records whose write succeeded while the slot was active, in order. -/
  accepted : List Record
  /-- The records that reads brought, in order. -/
  delivered : List Record

namespace Port

def start (consumer : Consumer) : Port := ⟨consumer, none, false, false, [], []⟩

def isInside (port : Port) : Bool := port.reading.any ReadPoint.isInside

def ended (port : Port) (point : ReadPoint) (result : Except Error ReadOutcome) : Port :=
  let port := { port with reading := none }
  match result with
  | .ok (.record payload) =>
    { port with torn := false, delivered := port.delivered ++ [payload] }
  | .ok _ => port
  | .error (.longRecordMismatch _ _) => { port with torn := true, mismatched := true }
  | .error _ => { port with torn := port.torn || point.isInside }

def after (port : Port) (consumer : Consumer) (point : ReadPoint) : ReadStep → Port
  | .sleeps next => { port with consumer, reading := some next }
  | .ended result => { port with consumer }.ended point result

end Port

/-- The shared memory, the producer's limit for what it holds back in memory, the producer, and the
readers by their slots. -/
structure Exchange where
  memory : Segment
  limit : Nat
  producer : Producer
  stand : Stand
  ports : Nat → Port

inductive Answer where
  | producer (result : Except Error Unit)
  | reader (slot : Nat) (result : Except Error ReadOutcome)

inductive Action where
  | write (slot : Nat) (record : Record)
  | finish
  /-- A pass of draining. -/
  | drain
  /-- The producer clears its latch after a wait. -/
  | waited
  | reset
  /-- The producer begins to unbind. -/
  | unbind (failed : Bool)
  /-- The next step of unbinding. -/
  | close (live : Liveness)
  /-- An unbinding producer wakes up, in time or not. -/
  | wake (timely : Bool)
  /-- An unbinding producer gives up its sleep. -/
  | giveUp (live : Liveness)
  | read (slot : Nat) (canWait : Bool)
  /-- A sleeping reader goes on. -/
  | resume (slot : Nat)
  /-- A sleeping reader gives up. -/
  | abandon (slot : Nat) (live : Liveness)
  /-- A reader stops reading. -/
  | leave (slot : Nat)

namespace Exchange

def start (memory : Segment) (handle : Handle) (limit : Nat) (session : Session)
    (mapping : List ConsumerMapping) (readers : Nat → Session) : Exchange where
  memory
  limit
  producer := Producer.start handle session mapping (memory.queue handle).consumers
  stand := .bound
  ports i := Port.start ⟨handle, readers i, i, false⟩

def queue (x : Exchange) : Queue := x.memory.queue x.producer.handle

def slot (x : Exchange) (i : Nat) : Slot := (x.queue.lane i).slot

def held (x : Exchange) (i : Nat) : Option OverflowStore := x.producer.held i

def withQueue (x : Exchange) (q : Queue) : Exchange :=
  { x with memory := x.memory.setQueue x.producer.handle q }

def withPort (x : Exchange) (i : Nat) (port : Port) : Exchange :=
  { x with ports := fun j => if j = i then port else x.ports j }

def withStand (x : Exchange) (stand : Stand) : Exchange := { x with stand }

def withProducer (x : Exchange) (p : Producer) (q : Queue) : Exchange :=
  { x.withQueue q with producer := p }

def write (x : Exchange) (i : Nat) (record : Record) : Exchange × Option Answer :=
  let port := x.ports i
  match x.producer.write x.limit x.queue i record with
  | (p, q, .error cause) => (x.withProducer p q, some (.producer (.error cause)))
  | (p, q, .ok ()) =>
    let next := x.withProducer p q
    (if (x.slot i).status = .active then
        next.withPort i { port with accepted := port.accepted ++ [record] }
      else next,
      some (.producer (.ok ())))

def finish (x : Exchange) : Exchange × Option Answer :=
  let (p, q, result) := x.producer.finish x.queue
  (x.withProducer p q, some (.producer (result.map fun _ => ())))

def drain (x : Exchange) : Exchange × Option Answer :=
  let (p, q, step) := x.producer.drainStep x.queue
  (x.withProducer p q,
    match step with
    | .ended result => some (.producer (result.map fun _ => ()))
    | .waits _ => none)

def reset (x : Exchange) : Exchange × Option Answer :=
  let (p, q) := x.producer.reset x.queue
  (x.withProducer p q, some (.producer (.ok ())))

def unbind (x : Exchange) (failed : Bool) : Exchange :=
  let (p, point) := x.producer.closeStart failed
  { x with producer := p, stand := .closing failed point }

def afterClosing (failed : Bool) : CloseStep → Stand
  | .goesOn point => .closing failed point
  | .waits pass => .asleep failed pass
  | .ended _ => .gone

def close (x : Exchange) (failed : Bool) (live : Liveness) (point : ClosePoint) :
    Exchange × Option Answer :=
  let (p, memory, step) := x.producer.closeStep x.memory failed live point
  ({ x with memory, producer := p, stand := afterClosing failed step },
    match step with
    | .ended result => some (.producer result)
    | _ => none)

def giveUp (x : Exchange) (cause : Error) : Exchange × Option Answer :=
  let (p, memory, _) := x.producer.closeFailed x.memory cause
  ({ x with memory, producer := p, stand := .gone }, some (.producer (.error cause)))

def read (x : Exchange) (i : Nat) (canWait : Bool) (point : ReadPoint) :
    Exchange × Option Answer :=
  let (q, c, step) := (x.ports i).consumer.readStep canWait point x.queue
  ((x.withQueue q).withPort i ((x.ports i).after c point step),
    match step with
    | .ended result => some (.reader i result)
    | .sleeps _ => none)

def abandon (x : Exchange) (i : Nat) (point : ReadPoint) (cause : Error) :
    Exchange × Option Answer :=
  (x.withPort i ((x.ports i).ended point (.error cause)), some (.reader i (.error cause)))

def leave (x : Exchange) (i : Nat) : Exchange :=
  let (q, c) := (x.ports i).consumer.reset x.queue
  (x.withQueue q).withPort i { x.ports i with consumer := c }

/-- What an action does, and what is answered if it ends a call. Calls that a party cannot make
where it stands do nothing. -/
def perform (x : Exchange) : Action → Exchange × Option Answer
  | .write i record =>
    match x.stand with
    | .bound => x.write i record
    | _ => (x, none)
  | .finish =>
    match x.stand with
    | .bound => x.finish
    | _ => (x, none)
  | .drain =>
    match x.stand with
    | .bound => x.drain
    | _ => (x, none)
  | .waited =>
    match x.stand with
    | .bound => (x.withQueue (Producer.afterWait x.queue), none)
    | _ => (x, none)
  | .reset =>
    match x.stand with
    | .bound => x.reset
    | _ => (x, none)
  | .unbind failed =>
    match x.stand with
    | .bound => (x.unbind failed, none)
    | _ => (x, none)
  | .close live =>
    match x.stand with
    | .closing failed point => x.close failed live point
    | _ => (x, none)
  | .wake timely =>
    match x.stand with
    | .asleep failed pass =>
      (x.withStand (.closing failed (if timely then .woken pass else .timedOut pass)), none)
    | _ => (x, none)
  | .giveUp live =>
    match x.stand, live.check with
    | .asleep _ _, .error cause => x.giveUp cause
    | _, _ => (x, none)
  | .read i canWait =>
    if i < x.queue.consumers ∧ (x.ports i).reading = none then x.read i canWait .row else (x, none)
  | .resume i =>
    match (x.ports i).reading with
    | some point => if i < x.queue.consumers then x.read i true point else (x, none)
    | none => (x, none)
  | .abandon i live =>
    match (x.ports i).reading, live.check with
    | some point, .error cause => x.abandon i point cause
    | _, _ => (x, none)
  | .leave i =>
    if i < x.queue.consumers ∧ (x.ports i).reading = none then (x.leave i, none) else (x, none)

def run (x : Exchange) (actions : List Action) : Exchange :=
  actions.foldl (fun x action => (x.perform action).1) x

end Exchange

end RecordExchange
