import RecordExchange.Segment.Entry

set_option autoImplicit false

/-!
A queue as the parties at work on it see it: an entry together with the sync block that serves it.

Each operation on a queue is a function on this pair. It reads and changes the queue through its
lanes, one per slot, and through the producer's latch.
-/

namespace RecordExchange

/-- An entry with a sync block. -/
structure Queue where
  entry : Entry
  sync : SyncBlock
  deriving DecidableEq, Inhabited

namespace Queue

def consumers (q : Queue) : Nat := q.entry.slots.size

def lane (q : Queue) (i : Nat) : Lane :=
  ⟨q.entry.slots.getD i default, q.sync.consumers.getD i default⟩

def setLane (q : Queue) (i : Nat) (l : Lane) : Queue :=
  { entry := { q.entry with slots := q.entry.slots.setIfInBounds i l.slot }
    sync := { q.sync with consumers := q.sync.consumers.setIfInBounds i l.latch } }

def lanes (q : Queue) : List Lane := (List.range q.consumers).map q.lane

def setLanesFrom (q : Queue) (i : Nat) : List Lane → Queue
  | [] => q
  | l :: rest => (q.setLane i l).setLanesFrom (i + 1) rest

def setLanes (q : Queue) (lanes : List Lane) : Queue := q.setLanesFrom 0 lanes

def mapLanes (q : Queue) (f : Lane → Lane) : Queue := q.setLanes (q.lanes.map f)

def onProducerLatch (q : Queue) (f : Latch → Latch) : Queue :=
  { q with sync := { q.sync with producer := f q.sync.producer } }

def wakeProducer (q : Queue) : Queue := q.onProducerLatch Latch.set

def slotOf? (q : Queue) (node : NodeId) : Option Nat :=
  (List.range q.consumers).find? fun i => (q.lane i).slot.node == node

def addReference (q : Queue) : Queue :=
  { q with entry := { q.entry with references := q.entry.references + 1 } }

def dropReference (q : Queue) : Queue :=
  { q with entry := { q.entry with references := q.entry.references - 1 } }

end Queue

/-- A bound party's hold on a queue: the places of its entry and its sync block, and its name. The
places may serve another queue by now. -/
structure Handle where
  entry : Nat
  block : Nat
  name : String
  deriving DecidableEq, Repr, Inhabited

end RecordExchange
