import RecordExchange.Latch
import RecordExchange.Overflow
import RecordExchange.Ring.LongRecord

set_option autoImplicit false

/-!
A consumer slot: who reads from it, where it stands, its buffer and its traffic counters.

A *lane* is a slot with the latch its consumer sleeps on; both are only touched while the slot is
locked, so one operation on a lane is one step.
-/

namespace RecordExchange

/-- Traffic counters of a slot. -/
structure Traffic where
  writes : Nat
  reads : Nat
  overflowWrites : Nat
  overflowReads : Nat
  overflowReturns : Nat
  deriving DecidableEq, Repr, Inhabited

def Traffic.none : Traffic := ⟨0, 0, 0, 0, 0⟩

/-- One consumer's place in a queue. -/
structure Slot where
  node : NodeId
  pid : ProcessId
  status : SlotStatus
  ring : Ring
  traffic : Traffic
  deriving DecidableEq, Inhabited

namespace Slot

/-- The node of a slot that was not handed out. -/
def unassigned : NodeId := -1

def fresh (cells : Array UInt8) : Slot :=
  ⟨unassigned, 0, .active, Ring.fresh cells, Traffic.none⟩

def discard (s : Slot) : Slot := { s with ring := s.ring.discard }

/-- More than half of the buffer is free, so that moving records from the overflow is worth it. -/
def isHalfFree (s : Slot) : Bool := s.ring.capacity / 2 < s.ring.free

end Slot

/-- A slot and its consumer's latch. -/
structure Lane where
  slot : Slot
  latch : Latch
  deriving DecidableEq, Inhabited

namespace Lane

def withStatus (l : Lane) (status : SlotStatus) : Lane :=
  { l with slot := { l.slot with status := status } }

def wake (l : Lane) : Lane := { l with latch := l.latch.set }

def discard (l : Lane) : Lane := { l with slot := l.slot.discard }

def count (l : Lane) (more : Traffic → Traffic) : Lane :=
  { l with slot := { l.slot with traffic := more l.slot.traffic } }

def countWrite (l : Lane) : Lane :=
  l.count fun t => { t with writes := t.writes + 1 }

def countRead (l : Lane) : Lane :=
  l.count fun t => { t with reads := t.reads + 1 }

def countOverflowWrite (l : Lane) : Lane :=
  l.count fun t => { t with overflowWrites := t.overflowWrites + 1 }

def countOverflowRead (l : Lane) : Lane :=
  l.count fun t => { t with overflowReads := t.overflowReads + 1 }

def countOverflowReturn (l : Lane) : Lane :=
  l.count fun t => { t with overflowReturns := t.overflowReturns + 1 }

def withRing (l : Lane) (ring : Ring) : Lane := { l with slot := { l.slot with ring := ring } }

/-- Appends a record that fits, waking the consumer if it may be asleep on an empty buffer. -/
def push (l : Lane) (record : Record) : Lane :=
  let (ring, wasEmpty) := l.slot.ring.push record
  if wasEmpty then (l.withRing ring).wake else l.withRing ring

/-- Moves records from the overflow into the buffer, a long one chunk by chunk. The flag says
whether the overflow is empty now. -/
def dump (l : Lane) (store : OverflowStore) : Lane × OverflowStore × Except Error Bool :=
  match _seen : store.front.1 with
  | none => (l, store.front.2, .ok true)
  | some record =>
    let l := l.countOverflowRead
    if l.slot.ring.fits record.length then
      (l.push record).dump store.front.2.pop.2
    else if l.slot.ring.rows = 0 then
      match l.slot.ring.pushLong record with
      | .error cause => (l, store.front.2, .error cause)
      | .ok (ring, true) => ((l.withRing ring).wake).dump store.front.2.pop.2
      | .ok (ring, false) =>
        ((l.withRing ring).wake.countOverflowReturn, store.front.2, .ok false)
    else (l.countOverflowReturn, store.front.2, .ok false)
termination_by store.weight
decreasing_by
  all_goals exact OverflowStore.weight_pop_front_lt store record _seen

end Lane

end RecordExchange
