import RecordExchange.Host.Basic

set_option autoImplicit false

/-!
A host with readers that run by themselves.

A reader binds to a queue and reads, waiting for each record, until it has read what it was asked
for or something else comes. The operations of other processes that wait do so here: while one of
them sleeps, the readers do all they can do.
-/

namespace RecordExchange

inductive ReaderNews where
  /-- It was bound to a slot. -/
  | bound (slot : Nat)
  | record (payload : Record)
  /-- It read to the end of the data. -/
  | eof
  /-- It read as many records as it was asked for. -/
  | limit
  | failed (cause : Error)
  /-- It was given the producer's role, which it gave up as failed. -/
  | producer (mapping : List ConsumerMapping)
  deriving DecidableEq, Repr

structure Reader where
  view : View
  /-- Its hold on a slot and the place where it sleeps; none once it has ended. -/
  reading : Option (Consumer × ReadPoint)
  /-- Reads it may still make, if there is a limit. -/
  left : Option Nat
  /-- What it has not told yet, oldest first. -/
  news : List ReaderNews
  deriving Inhabited

namespace Reader

def isDone (r : Reader) : Bool := r.reading.isNone

def tell (r : Reader) (news : ReaderNews) : Reader := { r with news := r.news ++ [news] }

def finish (r : Reader) (h : Host) (c : Consumer) (news : ReaderNews) : Host × Reader :=
  (h.setQueue r.view c.handle (c.drop (h.queue r.view c.handle)),
    { r.tell news with reading := none })

def work (r : Reader) (h : Host) (c : Consumer) (point : ReadPoint) : Nat → Host × Reader
  | 0 => (h, { r with reading := some (c, point) })
  | reads + 1 =>
    if r.left = some 0 then r.finish h c .limit
    else
      let (q, c, step) := c.readStep true point (h.queue r.view c.handle)
      let h := h.setQueue r.view c.handle q
      match step with
      | .sleeps point =>
        match (q.lane c.index).latch.beginWait none (h.liveness r.view) with
        | .failed cause => r.finish h c (.failed cause)
        | _ => (h, { r with reading := some (c, point) })
      | .ended (.ok (.record payload)) =>
        { r.tell (.record payload) with left := r.left.map (· - 1) }.work h c .row reads
      | .ended (.ok .eof) => r.finish h c .eof
      | .ended (.ok .wouldBlock) => (h, { r with reading := some (c, .row) })
      | .ended (.error cause) => r.finish h c (.failed cause)

/-- Reads until the reader sleeps or ends. Each read but the last takes a row, so the rows bound
the reads. -/
def run (r : Reader) (h : Host) (c : Consumer) (point : ReadPoint) : Host × Reader :=
  r.work h c point (((h.queue r.view c.handle).lane c.index).slot.ring.rows + 2)

/-- Lets a sleeping reader go on if it has a reason to. The flag says whether it had. -/
def step (r : Reader) (h : Host) : Host × Reader × Bool :=
  match r.reading with
  | none => (h, r, false)
  | some (c, point) =>
    match ((h.queue r.view c.handle).lane c.index).latch.keepWaiting (h.liveness r.view) with
    | .woken => let (h, r) := r.run h c point; (h, r, true)
    | .failed cause => let (h, r) := r.finish h c (.failed cause); (h, r, true)
    | _ => (h, r, false)

def interrupt (r : Reader) (h : Host) : Host × Reader :=
  match r.reading with
  | none => (h, r)
  | some (c, _) =>
    let q := h.queue r.view c.handle
    (h.setQueue r.view c.handle (q.setLane c.index (q.lane c.index).wake),
      { r with view := { r.view with interrupted := true } })

end Reader

/-- A host with its readers, by their names. -/
structure Site where
  host : Host
  readers : List (String × Reader)
  deriving Inhabited

namespace Site

/-- One round in which every reader goes on if it has a reason to. -/
def round (h : Host) : List (String × Reader) → Host × List (String × Reader) × Bool
  | [] => (h, [], false)
  | (name, r) :: rest =>
    let (h, r, moved) := r.step h
    let (h, rest, more) := round h rest
    (h, (name, r) :: rest, moved || more)

def settleFor (s : Site) : Nat → Site
  | 0 => s
  | rounds + 1 =>
    match round s.host s.readers with
    | (host, readers, true) => settleFor ⟨host, readers⟩ rounds
    | (host, readers, false) => ⟨host, readers⟩

/-- Lets all readers do what they can. A reader acts again only after another one has woken it,
which no reader does twice. -/
def settle (s : Site) : Site := s.settleFor (2 * s.readers.length + 1)

/-- A process sleeps on a latch: if nothing ends the wait at once, the readers get on, and a latch
that is still clear then stays so until the time has passed. -/
def sleep (s : Site) (v : View) (latch : Host → Latch) (timeoutMs : Option Nat) :
    Site × WaitState :=
  match (latch s.host).beginWait timeoutMs (s.host.liveness v) with
  | .asleep =>
    let s := s.settle
    match (latch s.host).keepWaiting (s.host.liveness v) with
    | .asleep => (s, if timeoutMs.isSome then .timedOut else .asleep)
    | ended => (s, ended)
  | ended => (s, ended)

def producerLatch (v : View) (handle : Handle) (h : Host) : Latch :=
  (h.queue v handle).sync.producer

/-- Steps after which a party that waits for somebody who never moves is given up. -/
def patience : Nat := 0x100000

def readFor (s : Site) (v : View) (c : Consumer) (canWait : Bool) (point : ReadPoint) :
    Nat → Site × Consumer × Option (Except Error ReadOutcome)
  | 0 => (s, c, none)
  | steps + 1 =>
    let (q, c, step) := c.readStep canWait point (s.host.queue v c.handle)
    let s := { s with host := s.host.setQueue v c.handle q }
    match step with
    | .ended result => (s, c, some result)
    | .sleeps point =>
      match s.sleep v (fun h => ((h.queue v c.handle).lane c.index).latch) none with
      | (s, .failed cause) => (s, c, some (.error cause))
      | (s, .woken) => s.readFor v c canWait point steps
      | (s, _) => (s, c, none)

def read (s : Site) (v : View) (c : Consumer) (canWait : Bool) :
    Site × Consumer × Option (Except Error ReadOutcome) :=
  s.readFor v c canWait .row patience

/-- Waits on the producer's latch and clears it. The flag says whether nobody signalled in time. -/
def waitOnProducerLatch (s : Site) (v : View) (handle : Handle) (timeoutMs : Option Nat) :
    Site × Option (Except Error Bool) :=
  match s.sleep v (producerLatch v handle) timeoutMs with
  | (s, .failed cause) => (s, some (.error cause))
  | (s, .asleep) => (s, none)
  | (s, state) =>
    ({ s with host := s.host.setQueue v handle (Producer.afterWait (s.host.queue v handle)) },
      some (.ok (state == .timedOut)))

/-- Passes of draining until nothing is held back or nobody makes room in time. -/
def drainFor (s : Site) (v : View) (p : Producer) (timeoutMs : Nat) :
    Nat → Site × Producer × Option (Except Error Nat)
  | 0 => (s, p, none)
  | passes + 1 =>
    let (p, q, step) := p.drainStep (s.host.queue v p.handle)
    let s := { s with host := s.host.setQueue v p.handle q }
    match step with
    | .ended result => (s, p, some result)
    | .waits pending =>
      match s.waitOnProducerLatch v p.handle (some timeoutMs) with
      | (s, some (.error cause)) => (s, p, some (.error cause))
      | (s, some (.ok true)) => (s, p, some (.ok pending))
      | (s, some (.ok false)) => s.drainFor v p timeoutMs passes
      | (s, none) => (s, p, none)

/-- Finishes until nothing is held back, waiting for room between passes. The number says for how
many slots something is still held back when nobody made room in time. -/
def drain (s : Site) (v : View) (p : Producer) (timeoutMs : Nat) :
    Site × Producer × Option (Except Error Nat) :=
  s.drainFor v p timeoutMs patience

def closeFor (s : Site) (v : View) (p : Producer) (failed : Bool) (point : ClosePoint) :
    Nat → Site × Option (Except Error Unit)
  | 0 => (s, none)
  | steps + 1 =>
    let (p, memory, step) := p.closeStep (s.host.segment v) failed (s.host.liveness v) point
    let s := { s with host := s.host.setSegment v memory }
    match step with
    | .ended result => (s, some result)
    | .goesOn point => s.closeFor v p failed point steps
    | .waits pass =>
      match s.sleep v (producerLatch v p.handle) (some v.config.connectTimeoutMs) with
      | (s, .failed cause) =>
        let (_, memory, _) := p.closeFailed (s.host.segment v) cause
        ({ s with host := s.host.setSegment v memory }, some (.error cause))
      | (s, .woken) => s.closeFor v p failed (.woken pass) steps
      | (s, _) => s.settle.closeFor v p failed (.timedOut pass) steps

/-- Unbinds a producer, waiting for its consumers unless it failed; no result if one of them never
comes to an end. -/
def unbind (s : Site) (v : View) (p : Producer) (failed : Bool) :
    Site × Option (Except Error Unit) :=
  let (p, point) := p.closeStart failed
  s.closeFor v p failed point patience

def dropProducer (s : Site) (v : View) (p : Producer) : Site := (s.unbind v p true).1

/-- Letting go of a consumer that has not come to an end stops its reading. -/
def dropConsumer (s : Site) (v : View) (c : Consumer) : Site :=
  { s with host := s.host.setQueue v c.handle (c.drop (s.host.queue v c.handle)) }

def startReader (s : Site) (v : View) (session : Session) (queue : String)
    (consumerNodes distribution : List NodeId) (limit : Option Nat) : Site × Reader :=
  let r : Reader := ⟨v, none, limit, []⟩
  match s.host.bind v session queue consumerNodes distribution with
  | (host, .error cause) => ({ s with host }, r.tell (.failed cause))
  | (host, .ok (.producer p)) =>
    (({ s with host } : Site).dropProducer v p, r.tell (.producer p.mapping))
  | (host, .ok (.consumer c)) =>
    let (host, r) := (r.tell (.bound c.index)).run host c .row
    ({ s with host }, r)

end Site

end RecordExchange
