import RecordExchange.Segment.Basic

set_option autoImplicit false

/-!
The registry of queues: claiming a queue by name, giving the claim up again, and looking at what is
there.

A queue exists while somebody claims it. The first claim creates it; a claim on a queue that an
earlier execution left behind waits until that queue is gone, for a limited number of tries.
-/

namespace RecordExchange

/-- Longest queue name in bytes; a key keeps one byte more for the end mark. -/
def maxNameLength : Nat := keySize - 1

/-- Whether an entry can hold the name. -/
def isQueueName (name : String) : Bool :=
  name.utf8ByteSize ≤ maxNameLength && !name.toList.contains '\x00'

/-- What one look at the registry made of a claim. -/
inductive Claim where
  /-- The claim stands. -/
  | held
  /-- The queue still belongs to an earlier execution. -/
  | stale
  deriving DecidableEq, Repr

/-- A queue with a producer in which the caller's node has no open slot was left over by an earlier
execution. -/
def Queue.isStale (q : Queue) (session : Session) : Bool :=
  q.entry.producerPid != 0 &&
    match q.slotOf? session.node with
    | some i => (q.lane i).slot.status == .done
    | none => true

namespace Segment

/-- The first place without a queue among the first `maxQueues`. -/
def freeEntry? (s : Segment) (maxQueues : Nat) : Option Nat :=
  (List.range maxQueues).find? fun i => !(s.entries.getD i default).live

def freeBlock? (s : Segment) (maxQueues : Nat) : Option Nat :=
  (List.range maxQueues).find? fun i => (s.blocks.getD i default).queue.isNone

def createQueue (s : Segment) (g : Geometry) (name : String) (consumers : Nat) :
    Segment × Except Error Unit :=
  let ringLen := ringLength g.queueSize consumers
  if ringLen ≤ LengthWord.size then (s, .error (.segmentTooSmall g.queueSize consumers))
  else
    match s.freeEntry? g.maxQueues with
    | none => (s, .error (.registryFull g.maxQueues))
    | some index =>
      match s.freeBlock? g.maxQueues with
      | none => (s, .error (.noFreeSyncBlock name))
      | some block =>
        let q := s.queueAt index block
        (s.setQueueAt index block
          ⟨q.entry.format name consumers ringLen block, q.sync.assign index consumers⟩, .ok ())

/-- What is wrong with a claim before anybody looks at the registry. -/
def claimFault? (g : Geometry) (name : String) (consumers : Nat) : Option Error :=
  if !isQueueName name then some (.nameTooLong name maxNameLength)
  else if consumers = 0 ∨ g.maxConsumers < consumers then
    some (.invalidConsumerCount consumers g.maxConsumers)
  else none

/-- One look at the registry on behalf of a claim: creates the queue, joins it, or finds that it
has to wait. -/
def tryAcquire (s : Segment) (g : Geometry) (live : Liveness) (session : Session) (name : String)
    (consumers : Nat) : Segment × Except Error Claim :=
  match live.check with
  | .error cause => (s, .error cause)
  | .ok () =>
    match s.find? g.maxQueues name with
    | none =>
      let (s, result) := s.createQueue g name consumers
      (s, result.map fun _ => .held)
    | some index =>
      let h := s.handleAt index
      let q := s.queue h
      if q.isStale session then (s, .ok .stale)
      else (s.setQueue h q.addReference, .ok .held)

/-- Looks again until the claim stands or `retries` more looks were in vain, `tries` having been
made before. Nobody else acts in between. -/
def acquireFrom (s : Segment) (g : Geometry) (live : Liveness) (session : Session) (name : String)
    (consumers tries : Nat) : Nat → Segment × Except Error Unit
  | 0 => (s, .error (.raceUnresolved name tries))
  | retries + 1 =>
    match s.tryAcquire g live session name consumers with
    | (s, .error cause) => (s, .error cause)
    | (s, .ok .held) => (s, .ok ())
    | (s, .ok .stale) => s.acquireFrom g live session name consumers (tries + 1) retries

def acquire (s : Segment) (g : Geometry) (live : Liveness) (retryLimit : Nat) (session : Session)
    (name : String) (consumers : Nat) : Segment × Except Error Unit :=
  match claimFault? g name consumers with
  | some fault => (s, .error fault)
  | none => s.acquireFrom g live session name consumers 0 (max 1 retryLimit)

end Segment

namespace Queue

/-- Closes what a node still has in a queue it will not read from. A slot nobody attached to stays
as it is, for a newer execution may be about to bind it. A node without a slot marks all slots that
were not handed out as done, and takes the first of them. -/
def releaseConsumer (q : Queue) (session : Session) : Queue :=
  match q.slotOf? session.node with
  | some i =>
    let l := q.lane i
    if l.slot.pid = 0 ∨ l.slot.status = .done then q
    else
      let closed := { (l.withStatus .done) with latch := l.latch.disown }
      (q.setLane i { closed with slot := { closed.slot with pid := 0 } }).wakeProducer
  | none =>
    let close (l : Lane) : Lane := if l.slot.node = Slot.unassigned then l.withStatus .done else l
    let seeded := match q.slotOf? Slot.unassigned with
      | some i =>
        let l := q.lane i
        (q.mapLanes close).setLane i
          { l with slot := { l.slot with node := session.node, status := .done } }
      | none => q
    seeded.wakeProducer

/-- Closes every slot of a node whose reader is gone, with all that is buffered there. -/
def disconnect (q : Queue) (session : Session) : Queue :=
  (q.mapLanes fun l =>
    if l.slot.node = session.node then (l.withStatus .done).discard else l).wakeProducer

end Queue

namespace Segment

/-- Gives a claim up, for a node that will not read from the queue any more. -/
def release (s : Segment) (g : Geometry) (live : Liveness) (session : Session) (name : String) :
    Segment × Except Error Unit :=
  match live.check with
  | .error cause => (s, .error cause)
  | .ok () =>
    match s.find? g.maxQueues name with
    | none => (s, .ok ())
    | some index =>
      let h := s.handleAt index
      let q := s.queue h
      let q :=
        if q.entry.producerNode = Slot.unassigned ∨ q.entry.producerNode = session.node then q
        else q.releaseConsumer session
      ((s.setQueue h q).dropReference h, .ok ())

/-- A remote reader is gone: every slot of its node is done. -/
def disconnectConsumer (s : Segment) (g : Geometry) (live : Liveness) (session : Session)
    (name : String) : Segment × Except Error Unit :=
  match live.check with
  | .error cause => (s, .error cause)
  | .ok () =>
    match s.find? g.maxQueues name with
    | none => (s, .ok ())
    | some index =>
      let h := s.handleAt index
      let q := s.queue h
      if q.entry.producerPid = 0 then (s, .ok ())
      else (s.setQueue h (q.disconnect session), .ok ())

def snapshot (s : Segment) (g : Geometry) (live : Liveness) (name : String) :
    Except Error (Option Queue) := do
  live.check
  return (s.find? g.maxQueues name).map fun index => s.queue (s.handleAt index)

def snapshotAll (s : Segment) (g : Geometry) (live : Liveness) : Except Error (List Queue) := do
  live.check
  return ((List.range g.maxQueues).filter fun i => (s.entries.getD i default).live).map
    fun index => s.queue (s.handleAt index)

end Segment

end RecordExchange
