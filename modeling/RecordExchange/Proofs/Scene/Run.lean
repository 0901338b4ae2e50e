import RecordExchange.Binding
import RecordExchange.Proofs.Exchange.Run

set_option autoImplicit false

/-!
A queue at work, one critical section at a time.

A producer's call, or a read, is not one action where other processes look on: it is over only after
several critical sections, and anybody may come in between two of them. A pass over the outlets
locks one slot after another. A reader that goes to sleep lets its slot go before it signals the
producer. A producer that was woken clears its latch later, and holds no lock then. A scene is a
queue together with where each of its parties stands among its critical sections; a cue has one
party carry out its next one.

The producer's lock rules out some of the orders in which the sections can follow each other. A
scene admits them all.
-/

namespace RecordExchange

/-- The calls in which a producer passes over its outlets. -/
inductive Pass where
  | finish
  | drain
  /-- Unbinding moves what is held back. -/
  | flush
  deriving DecidableEq, Repr

/-- What a producer sleeps for. -/
inductive Wait where
  /-- Its caller wants it to wait. -/
  | own
  /-- Room for what is held back, while it drains. -/
  | drain
  /-- Room for what is held back, while it unbinds. -/
  | flush
  /-- The end of its readers, while it unbinds. -/
  | sweep
  deriving DecidableEq, Repr

/-- Where a producer stands between two critical sections. -/
inductive ProducerStage where
  /-- It is between two calls. -/
  | free
  /-- It finishes the outlets from `next` on, and `pending` of those before hold something back. -/
  | passing (pass : Pass) (next pending : Nat)
  /-- It gives the queue up, and the slots from `next` on are still to be failed. -/
  | resetting (next : Nat)
  /-- It sleeps on its latch. -/
  | asleep (wait : Wait)
  /-- It woke up, in time or not. -/
  | roused (wait : Wait) (timely : Bool)
  /-- It is about to give up on consumers that have not attached, after a wait behind a pass. -/
  | dropping (pass : ClosePass)
  /-- It is about to look for consumers that are not done. -/
  | sweeping
  /-- It found none. -/
  | settling
  /-- Unbinding failed, and it is about to abandon the queue. -/
  | failing
  /-- It let go of the queue. -/
  | gone
  deriving DecidableEq, Repr

/-- Where the reader of a slot stands between two critical sections. -/
inductive ReaderStage where
  /-- Nobody is attached to the slot. -/
  | absent
  /-- It is between two reads, or asleep in one. -/
  | present
  /-- It let its slot go, and is about to signal the producer. -/
  | leaving
  deriving DecidableEq, Repr

def Pass.ended : Pass → Nat → ProducerStage
  | .finish, _ => .free
  | .drain, 0 => .free
  | .drain, _ => .asleep .drain
  | .flush, 0 => .sweeping
  | .flush, _ => .asleep .flush

def Pass.failed : Pass → ProducerStage
  | .flush => .failing
  | _ => .free

def Wait.failed : Wait → ProducerStage
  | .own => .free
  | .drain => .free
  | .flush => .failing
  | .sweep => .failing

def ClosePass.again : ClosePass → ProducerStage
  | .flush => .passing .flush 0 0
  | .sweep => .sweeping

def Wait.goesOn : Wait → Bool → ProducerStage
  | .own, _ => .free
  | .drain, true => .passing .drain 0 0
  | .drain, false => .free
  | .flush, true => ClosePass.flush.again
  | .flush, false => .dropping .flush
  | .sweep, true => ClosePass.sweep.again
  | .sweep, false => .dropping .sweep

/-- What a producer that woke up does to its latch. After a sweep it leaves it alone: the next sweep
clears it. -/
def Wait.clear : Wait → Queue → Queue
  | .sweep, q => q
  | _, q => Producer.afterWait q

/-- The producer after a failure, wherever it stands: its call is over, and one that unbinds
abandons the queue. -/
def ProducerStage.failed : ProducerStage → ProducerStage
  | .free => .free
  | .passing pass _ _ => pass.failed
  | .resetting _ => .free
  | .asleep wait => wait.failed
  | .roused wait _ => wait.failed
  | .dropping _ => .failing
  | .sweeping => .failing
  | .settling => .failing
  | .failing => .failing
  | .gone => .gone

/-- Whether a step of a read lets its slot go before it signals the producer. A reader that asks for
the next chunk of a long record signals first. -/
def ReadStep.signalsLate : ReadStep → Bool
  | .sleeps .row => true
  | .sleeps (.chunk _) => false
  | .ended (.ok .eof) => true
  | .ended (.error (.producerFailed _ _ _)) => true
  | .ended _ => false

/-- The queue without the signal that was sent to the producer since it was `before`. -/
def Queue.unsignalled (q before : Queue) : Queue := q.onProducerLatch fun _ => before.sync.producer

def Queue.wakenIf (q : Queue) (reason : Bool) : Queue := if reason then q.wakeProducer else q

theorem Queue.wakenIf_lane (q : Queue) (reason : Bool) : (q.wakenIf reason).lane = q.lane := by
  cases reason <;> rfl

theorem Queue.wakenIf_consumers (q : Queue) (reason : Bool) :
    (q.wakenIf reason).consumers = q.consumers := by
  cases reason <;> rfl

/-- Whether a queue that is given up fails the slot of a lane. -/
def Producer.isFailing (l : Lane) : Bool := l.slot.status == .active || l.slot.status == .error

/-- What becomes of a lane when the queue is given up. -/
def Producer.failLane (l : Lane) : Lane :=
  match l.slot.status with
  | .eof | .done => l
  | _ => (l.withStatus .error).discard.wake

/-- A queue with its parties, each somewhere between two critical sections. -/
structure Scene where
  queue : Queue
  limit : Nat
  producer : Producer
  stage : ProducerStage
  ports : Nat → Port
  seats : Nat → ReaderStage

/-- Who carries out which critical section. -/
inductive Cue where
  | write (slot : Nat) (record : Record)
  | finish
  | drain
  | wait
  | reset
  | unbind
  /-- The producer goes on with the call it is in. -/
  | go (live : Liveness)
  /-- The producer wakes up, in time or not. -/
  | wake (timely : Bool)
  /-- The producer's call fails. -/
  | fail
  | attach (session : Session) (name : String)
  | release (session : Session)
  | disconnect (session : Session)
  /-- A reader begins to read. -/
  | read (slot : Nat)
  /-- A sleeping reader wakes up and goes on. -/
  | resume (slot : Nat)
  /-- A reader that let its slot go signals the producer. -/
  | signal (slot : Nat)
  /-- A sleeping reader gives up. -/
  | giveUp (slot : Nat) (live : Liveness)

namespace Scene

def start (q : Queue) (handle : Handle) (limit : Nat) (session : Session)
    (mapping : List ConsumerMapping) : Scene where
  queue := q
  limit
  producer := Producer.start handle session mapping q.consumers
  stage := .free
  ports i := Port.start ⟨handle, default, i, false⟩
  seats _ := .absent

def slot (x : Scene) (i : Nat) : Slot := (x.queue.lane i).slot

def held (x : Scene) (i : Nat) : Option OverflowStore := x.producer.held i

def withStage (x : Scene) (stage : ProducerStage) : Scene := { x with stage }

def withQueue (x : Scene) (queue : Queue) : Scene := { x with queue }

def withPort (x : Scene) (i : Nat) (port : Port) : Scene :=
  { x with ports := fun j => if j = i then port else x.ports j }

def withSeat (x : Scene) (i : Nat) (seat : ReaderStage) : Scene :=
  { x with seats := fun j => if j = i then seat else x.seats j }

section Producer

def write (x : Scene) (i : Nat) (record : Record) : Scene :=
  match x.producer.write x.limit x.queue i record with
  | (producer, queue, .error _) => { x with producer, queue }
  | (producer, queue, .ok ()) =>
    let next := { x with producer, queue }
    if (x.slot i).status = .active then
      next.withPort i { x.ports i with accepted := (x.ports i).accepted ++ [record] }
    else next

/-- Finishes the next outlet of a pass, or ends the pass behind the last one. -/
def pass (x : Scene) (pass : Pass) (next pending : Nat) : Scene :=
  if next < x.queue.consumers then
    let (o, result) := (x.producer.outlet x.queue next).finish
    let (producer, queue) := x.producer.setOutlet x.queue next o
    { x with
      producer
      queue
      stage := match result with
        | .ok more => .passing pass (next + 1) (pending + more)
        | .error _ => pass.failed }
  else x.withStage (pass.ended pending)

/-- Fails the next slot of a queue that is given up, or forgets what is held back behind the last
one. -/
def resetNext (x : Scene) (next : Nat) : Scene :=
  if next < x.queue.consumers then
    let l := x.queue.lane next
    { x with
      queue := (x.queue.setLane next (Producer.failLane l)).wakenIf (Producer.isFailing l)
      stage := .resetting (next + 1) }
  else { x with producer := x.producer.dropOverflow, stage := .free }

def sweep (x : Scene) : Scene :=
  let queue := x.queue.mapLanes (Producer.sweepLane false)
  if x.queue.lanes.any Producer.isAwaited then
    { x with queue := queue.onProducerLatch Latch.reset, stage := .asleep .sweep }
  else { x with queue, stage := .settling }

def settle (x : Scene) (live : Liveness) : Scene :=
  match live.check with
  | .error _ => x.withStage .failing
  | .ok () =>
    if x.queue.lanes.any Producer.isRunning then x.withStage .sweeping
    else { x with queue := (x.queue.onProducerLatch Latch.disown).dropReference, stage := .gone }

def abandon (x : Scene) : Scene :=
  let queue := x.queue.mapLanes (Producer.sweepLane true)
  { x with
    queue := (queue.onProducerLatch Latch.disown).dropReference
    producer := x.producer.dropOverflow
    stage := .gone }

def go (x : Scene) (live : Liveness) : Scene :=
  match x.stage with
  | .passing pass next pending => x.pass pass next pending
  | .resetting next => x.resetNext next
  | .roused wait timely => { x with queue := wait.clear x.queue, stage := wait.goesOn timely }
  | .dropping pass =>
    { x with queue := (Producer.resetNotConnected x.queue).2, stage := pass.again }
  | .sweeping => x.sweep
  | .settling => x.settle live
  | .failing => x.abandon
  | _ => x

section Go

variable {x : Scene} (live : Liveness)

theorem go_passing {pass : Pass} {next pending : Nat}
    (stands : x.stage = .passing pass next pending) : x.go live = x.pass pass next pending := by
  rw [go, stands]

theorem go_resetting {next : Nat} (stands : x.stage = .resetting next) :
    x.go live = x.resetNext next := by
  rw [go, stands]

theorem go_roused {wait : Wait} {timely : Bool} (stands : x.stage = .roused wait timely) :
    x.go live = { x with queue := wait.clear x.queue, stage := wait.goesOn timely } := by
  rw [go, stands]

theorem go_dropping {pass : ClosePass} (stands : x.stage = .dropping pass) :
    x.go live =
      { x with queue := (Producer.resetNotConnected x.queue).2, stage := pass.again } := by
  rw [go, stands]

theorem go_sweeping (stands : x.stage = .sweeping) : x.go live = x.sweep := by
  rw [go, stands]

theorem go_settling (stands : x.stage = .settling) : x.go live = x.settle live := by
  rw [go, stands]

theorem go_failing (stands : x.stage = .failing) : x.go live = x.abandon := by
  rw [go, stands]

end Go

def call (x : Scene) (begun : Scene) : Scene := if x.stage = .free then begun else x

def wake (x : Scene) (timely : Bool) : Scene :=
  match x.stage with
  | .asleep wait =>
    if timely = true → x.queue.sync.producer.isSet = true then x.withStage (.roused wait timely)
    else x
  | _ => x

end Producer

section Readers

def attach (x : Scene) (session : Session) (name : String) : Scene :=
  match x.queue.bindConsumer session name with
  | (queue, .error _) => x.withQueue queue
  | (queue, .ok i) =>
    if x.seats i = .absent then
      ((x.withQueue queue).withPort i
        { x.ports i with consumer := ⟨x.producer.handle, session, i, false⟩ }).withSeat i .present
    else x

def read (x : Scene) (i : Nat) (point : ReadPoint) : Scene :=
  let (q, c, step) := (x.ports i).consumer.readStep true point x.queue
  let next := x.withPort i ((x.ports i).after c point step)
  if step.signalsLate then (next.withQueue (q.unsignalled x.queue)).withSeat i .leaving
  else next.withQueue q

end Readers

/-- What a cue does. One that does not suit where its party stands does nothing. -/
def perform (x : Scene) : Cue → Scene
  | .write i record => x.call (x.write i record)
  | .finish => x.call (x.withStage (.passing .finish 0 0))
  | .drain => x.call (x.withStage (.passing .drain 0 0))
  | .wait => x.call (x.withStage (.asleep .own))
  | .reset => x.call (x.withStage (.resetting 0))
  | .unbind => x.call (x.withStage (.passing .flush 0 0))
  | .go live => x.go live
  | .wake timely => x.wake timely
  | .fail => x.withStage x.stage.failed
  | .attach session name => x.attach session name
  | .release session => x.withQueue (x.queue.releaseConsumer session)
  | .disconnect session => x.withQueue (x.queue.disconnect session)
  | .read i =>
    if x.seats i = .present ∧ (x.ports i).reading = none then x.read i .row else x
  | .resume i =>
    match (x.ports i).reading with
    | some point =>
      if x.seats i = .present ∧ (x.queue.lane i).latch.isSet = true then x.read i point else x
    | none => x
  | .signal i =>
    if x.seats i = .leaving then (x.withQueue x.queue.wakeProducer).withSeat i .present else x
  | .giveUp i live =>
    match (x.ports i).reading, live.check with
    | some point, .error cause =>
      if x.seats i = .present then x.withPort i ((x.ports i).ended point (.error cause)) else x
    | _, _ => x

def run (x : Scene) (cues : List Cue) : Scene := cues.foldl perform x

/-- Every cue of a run is one that `allowed` admits where it is given. -/
def Along (allowed : Scene → Cue → Prop) : Scene → List Cue → Prop
  | _, [] => True
  | x, cue :: rest => allowed x cue ∧ Along allowed (x.perform cue) rest

/-- The producer sleeps in draining or unbinding, the reader of slot `i` sleeps, neither has been
signalled, and there is something that one of them should have been told of. -/
structure Standoff (x : Scene) (i : Nat) : Prop where
  inside : i < x.queue.consumers
  waits : ∃ wait, x.stage = .asleep wait ∧ wait ≠ .own
  unsignalled : x.queue.sync.producer.isSet = false
  present : x.seats i = .present
  reads : (x.ports i).reading ≠ none
  unheard : (x.queue.lane i).latch.isSet = false
  due : x.producer.pending i ≠ 0 ∨ (x.slot i).ring.rows ≠ 0 ∨ (x.slot i).status ≠ .active

/-- Nobody's release or disconnect changes the lane of a reader that is bound. -/
def Spares (x : Scene) : Cue → Prop
  | .release session => ∀ i, i < x.queue.consumers → x.seats i ≠ .absent →
      (x.queue.releaseConsumer session).lane i = x.queue.lane i
  | .disconnect session => ∀ i, i < x.queue.consumers → x.seats i ≠ .absent →
      (x.queue.disconnect session).lane i = x.queue.lane i
  | _ => True

/-- A reader gives up in the middle of a long record. -/
def GivesUpInside (x : Scene) : Cue → Prop
  | .giveUp i live => live.check ≠ .ok () ∧ (x.ports i).isInside = true
  | _ => False

/-- No bound reader loses its slot, and every reader that began a long record waits for the rest. -/
structure Waiting (x : Scene) (cue : Cue) : Prop where
  spares : x.Spares cue
  patient : ¬ x.GivesUpInside cue

end Scene

end RecordExchange
