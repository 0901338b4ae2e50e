import Mathlib.Logic.Function.Basic
import RecordExchange.Binding
import RecordExchange.Config
import RecordExchange.Proofs.Exchange.Run

set_option autoImplicit false

/-!
All parties at work on one segment.

The commons are the shared memory with everybody who ever took up a role in one of its queues, and
with the claims that stand. Any session may move at any time, each through a view of its own: it
claims a queue, binds, gives its claim up, reports a remote reader's end, or goes on in a role it
took up. A call that may sleep is one move up to its first sleep and one for each step after that.
-/

namespace RecordExchange

/-- A producer that was bound, and where it stands. -/
structure ProducerSeat where
  producer : Producer
  /-- What it may hold back in memory. -/
  limit : Nat
  stand : Stand
  /-- How many queues its place had been laid out for when it was bound. -/
  turn : Nat

/-- A consumer that was bound, and where it stands. -/
structure ConsumerSeat where
  consumer : Consumer
  /-- Where a read sleeps, while one does. -/
  reading : Option ReadPoint
  /-- It has not been let go of. -/
  isOpen : Bool
  /-- How many queues its place had been laid out for when it was bound. -/
  turn : Nat

/-- The calls of a bound producer that come to an end without the registry. -/
inductive ProducerCall where
  | write (slot : Nat) (record : Record)
  | finish
  /-- A pass of draining. -/
  | drain
  /-- The producer clears its latch after a wait. -/
  | waited
  | canPause
  | reset
  | resetNotConnected

inductive ProducerMove where
  | call (call : ProducerCall)
  /-- It begins to unbind; one that is dropped does so as a failed one. -/
  | unbind (failed : Bool)
  /-- The next step of unbinding. -/
  | close (live : Liveness)
  /-- It wakes up while it unbinds, in time or not. -/
  | wake (timely : Bool)
  /-- It gives up its sleep while it unbinds. -/
  | giveUp (live : Liveness)

inductive ConsumerMove where
  | read (canWait : Bool)
  /-- A sleeping reader goes on. -/
  | resume
  /-- A sleeping reader gives up. -/
  | abandon (live : Liveness)
  /-- It stops reading. -/
  | leave
  /-- It lets go of the queue. -/
  | drop

/-- What a session does next, under the conditions `live` it knows of when it begins. -/
inductive Move where
  /-- One look at the registry on behalf of a claim. -/
  | acquire (live : Liveness) (session : Session) (name : String) (consumers : Nat)
  /-- A session takes up a role; as a producer it may hold back `limit` bytes in memory. -/
  | bind (live : Liveness) (session : Session) (name : String)
      (consumerNodes distribution : List NodeId) (limit : Nat)
  | release (live : Liveness) (session : Session) (name : String)
  | disconnect (live : Liveness) (session : Session) (name : String)
  /-- The producer that was bound as number `k` goes on. -/
  | produce (k : Nat) (move : ProducerMove)
  /-- The consumer that was bound as number `k` goes on. -/
  | consume (k : Nat) (move : ConsumerMove)

namespace ProducerSeat

def call (p : Producer) (limit : Nat) (q : Queue) : ProducerCall → Producer × Queue
  | .write i record => ((p.write limit q i record).1, (p.write limit q i record).2.1)
  | .finish => ((p.finish q).1, (p.finish q).2.1)
  | .drain => ((p.drainStep q).1, (p.drainStep q).2.1)
  | .waited => (p, Producer.afterWait q)
  | .canPause => (p, (Producer.canPause q).2)
  | .reset => p.reset q
  | .resetNotConnected => (p, (Producer.resetNotConnected q).2)

/-- What a move makes of the seat and of the memory. Moves that the producer cannot make where it
stands do nothing. -/
def step (seat : ProducerSeat) (s : Segment) : ProducerMove → ProducerSeat × Segment
  | .call c =>
    match seat.stand with
    | .bound =>
      let (p, q) := call seat.producer seat.limit (s.queue seat.producer.handle) c
      ({ seat with producer := p }, s.setQueue seat.producer.handle q)
    | _ => (seat, s)
  | .unbind failed =>
    match seat.stand with
    | .bound =>
      let (p, point) := seat.producer.closeStart failed
      ({ seat with producer := p, stand := .closing failed point }, s)
    | _ => (seat, s)
  | .close live =>
    match seat.stand with
    | .closing failed point =>
      let (p, s, step) := seat.producer.closeStep s failed live point
      ({ seat with producer := p, stand := Exchange.afterClosing failed step }, s)
    | _ => (seat, s)
  | .wake timely =>
    match seat.stand with
    | .asleep failed pass =>
      ({ seat with stand := .closing failed (if timely then .woken pass else .timedOut pass) }, s)
    | _ => (seat, s)
  | .giveUp live =>
    match seat.stand, live.check with
    | .asleep _ _, .error cause =>
      let (p, s, _) := seat.producer.closeFailed s cause
      ({ seat with producer := p, stand := .gone }, s)
    | _, _ => (seat, s)

end ProducerSeat

namespace ConsumerSeat

def after (seat : ConsumerSeat) (consumer : Consumer) : ReadStep → ConsumerSeat
  | .sleeps point => { seat with consumer, reading := some point }
  | .ended _ => { seat with consumer, reading := none }

def read (seat : ConsumerSeat) (canWait : Bool) (point : ReadPoint) (q : Queue) :
    ConsumerSeat × Queue :=
  let (q, c, step) := seat.consumer.readStep canWait point q
  (seat.after c step, q)

/-- What a move makes of the seat and of the queue it holds on to. Only a sleeping reader goes on
or gives up; anything else waits until no read sleeps. -/
def step (seat : ConsumerSeat) (q : Queue) (move : ConsumerMove) : ConsumerSeat × Queue :=
  if seat.isOpen then
    match move, seat.reading with
    | .read canWait, none => seat.read canWait .row q
    | .resume, some point => seat.read true point q
    | .abandon live, some _ =>
      match live.check with
      | .error _ => ({ seat with reading := none }, q)
      | .ok () => (seat, q)
    | .leave, none => ({ seat with consumer := (seat.consumer.reset q).2 }, (seat.consumer.reset q).1)
    | .drop, none => ({ seat with isOpen := false }, seat.consumer.drop q)
    | _, _ => (seat, q)
  else (seat, q)

end ConsumerSeat

/-- The shared memory and the sizes all views of it work with; everybody who took up a role, in
order; the claims that stand; and for each place of the registry the names it was laid out for, the
latest first. -/
structure Commons where
  memory : Segment
  geometry : Geometry
  producers : List ProducerSeat
  consumers : List ConsumerSeat
  claims : List (Session × String)
  laidOut : Nat → List String

namespace Commons

def start (c : Config) (creator : ProcessId) : Commons where
  memory := Segment.create c creator
  geometry := ⟨c.maxQueues, c.maxConsumers, c.queueSize⟩
  producers := []
  consumers := []
  claims := []
  laidOut := fun _ => []

def turn (x : Commons) (entry : Nat) : Nat := (x.laidOut entry).length

/-- What the places were laid out for, once a claim on `name` stands that does not now. -/
def layingOut (x : Commons) (name : String) : Nat → List String :=
  match x.memory.find? x.geometry.maxQueues name, x.memory.freeEntry? x.geometry.maxQueues with
  | none, some i => Function.update x.laidOut i (name :: x.laidOut i)
  | _, _ => x.laidOut

def acquire (x : Commons) (live : Liveness) (session : Session) (name : String)
    (consumers : Nat) : Commons :=
  match Segment.claimFault? x.geometry name consumers with
  | some _ => x
  | none =>
    match x.memory.tryAcquire x.geometry live session name consumers with
    | (memory, .ok .held) =>
      { x with memory, claims := (session, name) :: x.claims, laidOut := x.layingOut name }
    | (memory, _) => { x with memory }

def bind (x : Commons) (live : Liveness) (session : Session) (name : String)
    (consumerNodes distribution : List NodeId) (limit : Nat) : Commons :=
  match x.memory.bind x.geometry live session name consumerNodes distribution with
  | (memory, .ok (.producer p)) =>
    { x with memory, producers := x.producers ++ [⟨p, limit, .bound, x.turn p.handle.entry⟩] }
  | (memory, .ok (.consumer c)) =>
    { x with memory, consumers := x.consumers ++ [⟨c, none, true, x.turn c.handle.entry⟩] }
  | (memory, .error _) => { x with memory }

def release (x : Commons) (live : Liveness) (session : Session) (name : String) : Commons :=
  match x.memory.release x.geometry live session name with
  | (memory, .ok ()) => { x with memory, claims := x.claims.erase (session, name) }
  | (memory, .error _) => { x with memory }

def produce (x : Commons) (k : Nat) (move : ProducerMove) : Commons :=
  match x.producers[k]? with
  | none => x
  | some seat =>
    let (seat, memory) := seat.step x.memory move
    { x with memory, producers := x.producers.set k seat }

def consume (x : Commons) (k : Nat) (move : ConsumerMove) : Commons :=
  match x.consumers[k]? with
  | none => x
  | some seat =>
    let handle := seat.consumer.handle
    let (seat, q) := seat.step (x.memory.queue handle) move
    { x with memory := x.memory.setQueue handle q, consumers := x.consumers.set k seat }

def perform (x : Commons) : Move → Commons
  | .acquire live session name consumers => x.acquire live session name consumers
  | .bind live session name consumerNodes distribution limit =>
    x.bind live session name consumerNodes distribution limit
  | .release live session name => x.release live session name
  | .disconnect live session name =>
    { x with memory := (x.memory.disconnectConsumer x.geometry live session name).1 }
  | .produce k move => x.produce k move
  | .consume k move => x.consume k move

def run (x : Commons) (moves : List Move) : Commons := moves.foldl perform x

/-- Settings with places for two queues, whose buffers take one byte of a record at a time. -/
def narrow : Config := { Config.default with maxQueues := 2, maxConsumers := 2, queueSize := 197 }

/-- What a process knows whom nobody asked to stop while the segment's owner runs. -/
def undisturbed : Liveness := ⟨false, 1, true⟩

/-- Every move of a run is one that `allowed` admits where it is made. -/
def Along (allowed : Commons → Move → Prop) : Commons → List Move → Prop
  | _, [] => True
  | x, move :: rest => allowed x move ∧ Along allowed (x.perform move) rest

end Commons

end RecordExchange
