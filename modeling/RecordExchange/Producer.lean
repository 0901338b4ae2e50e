import RecordExchange.Segment.Basic

set_option autoImplicit false

/-!
The producing side of a queue.

What a consumer's buffer has no room for is held back in an overflow store of the producer, one per
slot, and moved into the buffer later, in the order it was written. A slot together with the store
behind it is an *outlet*; nearly everything a producer does, it does to one outlet after another.
-/

namespace RecordExchange

def LengthWord.check (length : Nat) : Except Error Nat :=
  if maxLength < length then .error (.recordTooLarge length maxLength) else .ok length

/-- Where the rows for a distribution node go. -/
inductive ConsumerMapping where
  /-- They stay on the producer's own node. -/
  | myself
  /-- Into a slot. -/
  | slot (index : Nat)
  /-- Nowhere: the node will never read. -/
  | absent
  deriving DecidableEq, Repr, Inhabited

/-- A lane and what the producer holds back for it. -/
structure Outlet where
  lane : Lane
  held : Option OverflowStore
  deriving DecidableEq, Inhabited

namespace Outlet

def pending (o : Outlet) : Nat := o.held.elim 0 (·.length)

/-- Moves what was held back as far as it goes, forgetting the store once it is empty. The flag
says whether it is. -/
def dump (o : Outlet) (store : OverflowStore) : Outlet × Except Error Bool :=
  match o.lane.dump store with
  | (lane, _, .ok true) => (⟨lane, none⟩, .ok true)
  | (lane, store, result) => (⟨lane, some store⟩, result)

/-- Holds a record back behind the others, or as the first one. -/
def hold (o : Outlet) (limit : Nat) (record : Record) : Outlet :=
  ⟨o.lane.countOverflowWrite, some ((o.held.getD (.empty limit)).push record)⟩

/-- Puts a record into the buffer, or holds it back if there is no room. Nothing is held back
before. -/
def send (o : Outlet) (limit : Nat) (record : Record) : Outlet :=
  if o.lane.slot.ring.fits record.length then { o with lane := o.lane.push record }
  else o.hold limit record

/-- Writes a record, which never waits: one for a slot that is closed is dropped, and one that must
not overtake others is held back behind them. -/
def write (o : Outlet) (limit : Nat) (record : Record) : Outlet × Except Error Unit :=
  let o := { o with lane := o.lane.countWrite }
  if o.lane.slot.status ≠ .active then ({ o with held := none }, .ok ())
  else
    match o.held with
    | none => (o.send limit record, .ok ())
    | some store =>
      if o.lane.slot.isHalfFree then
        match o.dump store with
        | (o, .error cause) => (o, .error cause)
        | (o, .ok true) => (o.send limit record, .ok ())
        | (o, .ok false) => (o.hold limit record, .ok ())
      else (o.hold limit record, .ok ())

/-- Announces the end of the data once nothing is held back any more. The number is 1 if something
still is. -/
def finish (o : Outlet) : Outlet × Except Error Nat :=
  match o.held with
  | none =>
    if o.lane.slot.status = .active then
      ({ o with lane := (o.lane.withStatus .eof).wake }, .ok 0)
    else (o, .ok 0)
  | some store =>
    if o.lane.slot.status ≠ .active then ({ o with held := none }, .ok 0)
    else if o.lane.slot.isHalfFree then
      match o.dump store with
      | (o, .error cause) => (o, .error cause)
      | (o, .ok true) => ({ o with lane := (o.lane.withStatus .eof).wake }, .ok 0)
      | (o, .ok false) => ({ o with lane := o.lane.wake }, .ok 1)
    else (o, .ok 1)

/-- Finishes one outlet after another up to the first failure, counting those that still hold
something back. -/
def finishAll : List Outlet → List Outlet × Except Error Nat
  | [] => ([], .ok 0)
  | o :: rest =>
    match o.finish with
    | (o, .error cause) => (o :: rest, .error cause)
    | (o, .ok pending) =>
      let (rest, result) := finishAll rest
      (o :: rest, result.map (pending + ·))

end Outlet

/-- What a producer that would like to rest has seen of the slots. -/
structure Backlog where
  /-- The active slot seen last, if there was one, has a complete row. -/
  ready : Bool
  /-- Bytes taken in the buffers of the active slots seen. -/
  used : Nat
  /-- Active slots seen. -/
  active : Nat
  /-- Length of the buffer seen last. -/
  capacity : Nat
  deriving DecidableEq, Repr, Inhabited

namespace Backlog

/-- Nothing was seen yet. -/
def start : Backlog := ⟨true, 0, 0, 0⟩

def look (b : Backlog) (s : Slot) : Backlog :=
  if s.status = .active then
    ⟨0 < s.ring.rows, b.used + s.ring.used, b.active + 1, s.ring.capacity⟩
  else { b with capacity := s.ring.capacity }

/-- Looks at slots in their order, but at none behind the first active one without a row. -/
def scan (b : Backlog) : List Slot → Backlog
  | [] => b
  | s :: rest => if b.ready then (b.look s).scan rest else b

def isAmple (b : Backlog) : Bool :=
  b.active != 0 && (b.ready && decide (b.capacity / 2 < b.used / b.active))

end Backlog

/-- A process's hold on a queue as its producer. -/
structure Producer where
  handle : Handle
  session : Session
  /-- Where the rows for each distribution node go, in the order the nodes were given. -/
  mapping : List ConsumerMapping
  /-- What is held back, per slot. -/
  overflow : Array (Option OverflowStore)
  deriving DecidableEq, Inhabited

namespace Producer

def start (handle : Handle) (session : Session) (mapping : List ConsumerMapping)
    (consumers : Nat) : Producer :=
  ⟨handle, session, mapping, Array.replicate consumers none⟩

def pending (p : Producer) (i : Nat) : Nat := (p.overflow.getD i none).elim 0 (·.length)

def targets (p : Producer) : List Nat :=
  p.mapping.filterMap fun
    | .slot i => some i
    | _ => none

def outlet (p : Producer) (q : Queue) (i : Nat) : Outlet := ⟨q.lane i, p.overflow.getD i none⟩

def setOutlet (p : Producer) (q : Queue) (i : Nat) (o : Outlet) : Producer × Queue :=
  ({ p with overflow := p.overflow.setIfInBounds i o.held }, q.setLane i o.lane)

def outlets (p : Producer) (q : Queue) : List Outlet :=
  (List.range q.consumers).map (p.outlet q)

def setOutletsFrom (p : Producer) (q : Queue) (i : Nat) : List Outlet → Producer × Queue
  | [] => (p, q)
  | o :: rest =>
    let (p, q) := p.setOutlet q i o
    p.setOutletsFrom q (i + 1) rest

def dropOverflow (p : Producer) : Producer :=
  { p with overflow := p.overflow.map fun _ => none }

def write (p : Producer) (limit : Nat) (q : Queue) (i : Nat) (record : Record) :
    Producer × Queue × Except Error Unit :=
  if q.consumers ≤ i then
    (p, q, .error (.invalidConsumerIndex p.handle.name i q.consumers))
  else
    match LengthWord.check record.length with
    | .error cause => (p, q, .error cause)
    | .ok _ =>
      let (o, result) := (p.outlet q i).write limit record
      let (p, q) := p.setOutlet q i o
      (p, q, result)

/-- Announces the end of the data to every slot nothing is held back for, after moving what fits.
The number says for how many slots something still is held back. -/
def finish (p : Producer) (q : Queue) : Producer × Queue × Except Error Nat :=
  let (outlets, result) := Outlet.finishAll (p.outlets q)
  let (p, q) := p.setOutletsFrom q 0 outlets
  (p, q, result)

/-- Whether every active consumer has a complete row to read, and the active buffers are more than
half full on average, so that the producer may rest. -/
def isBackedUp (lanes : List Lane) : Bool :=
  (Backlog.start.scan (lanes.map (·.slot))).isAmple

/-- Whether the producer may rest; each time it may is counted. -/
def canPause (q : Queue) : Bool × Queue :=
  if isBackedUp q.lanes then
    (true, { q with entry := { q.entry with paused := q.entry.paused + 1 } })
  else (false, q)

/-- Gives the queue up: every consumer that is not at the end of its data gets an error and loses
what is buffered for it. -/
def reset (p : Producer) (q : Queue) : Producer × Queue :=
  let fail (l : Lane) : Lane :=
    match l.slot.status with
    | .eof | .done => l
    | _ => (l.withStatus .error).discard.wake
  let failing := q.lanes.any fun l => l.slot.status == .active || l.slot.status == .error
  let q := q.mapLanes fail
  (p.dropOverflow, if failing then q.wakeProducer else q)

def isUnattached (l : Lane) : Bool := l.slot.pid == 0 && l.slot.status != .done

def resetNotConnected (q : Queue) : Nat × Queue :=
  ((q.lanes.filter isUnattached).length,
    q.mapLanes fun l => if isUnattached l then (l.withStatus .done).discard.wake else l)

def stats (q : Queue) : List Traffic := q.lanes.map (·.slot.traffic)

end Producer

end RecordExchange
