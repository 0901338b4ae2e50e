import RecordExchange.Command.Run

set_option autoImplicit false

/-!
A workbench: a site on which views and bound parties go by names, so that what several processes do
can be played through step by step.

Every step is meant to be followed by `settle`, which lets the readers do what they can before the
next one.
-/

namespace RecordExchange

inductive Party where
  | producer (view : String) (p : Producer)
  | consumer (view : String) (c : Consumer)
  /-- A reader, kept on the site under the party's name. -/
  | reader (view : String)

def Party.view : Party → String
  | .producer view _ => view
  | .consumer view _ => view
  | .reader view => view

/-- A site with named views and parties. Readers work on the site under their parties' names. -/
structure Workbench where
  site : Site
  /-- The process behind all views. -/
  self : ProcessId
  /-- The number of the next process that is started. -/
  nextPid : ProcessId
  /-- The settings of a view that says nothing else. -/
  defaults : Config
  views : List (String × View)
  parties : List (String × Party)
  /-- A view of the workbench's own, opened with the first one. -/
  observer : Option View
  /-- Serving processes with their views, the latest first. -/
  servers : List (ProcessId × View)

/-- Puts a value under a name, in the order of the names. -/
def putNamed {α : Type} (name : String) (value : α) : List (String × α) → List (String × α)
  | [] => [(name, value)]
  | (n, v) :: rest =>
    if name = n then (name, value) :: rest
    else if name < n then (name, value) :: (n, v) :: rest
    else (n, v) :: putNamed name value rest

def eraseNamed {α : Type} (name : String) (named : List (String × α)) : List (String × α) :=
  named.filter fun entry => entry.1 != name

namespace Workbench

def start (self nextPid : ProcessId) (directory : String) (defaults : Config) : Workbench where
  site := ⟨Host.start [self] directory, []⟩
  self
  nextPid
  defaults
  views := []
  parties := []
  observer := none
  servers := []

def host (w : Workbench) : Host := w.site.host

def withHost (w : Workbench) (host : Host) : Workbench := { w with site := { w.site with host } }

def settle (w : Workbench) : Workbench := { w with site := w.site.settle }

def view? (w : Workbench) (name : String) : Option View := w.views.lookup name

def configOf (w : Workbench) (view : String) : Config :=
  (w.view? view).elim w.defaults (·.config)

/-- Keeps a view under a name that is free; one that is not keeps its old view. -/
def keepView (w : Workbench) (name : String) (v : View) : Workbench :=
  let w := if w.observer.isNone then
      { w with observer := some { v with interrupted := false, isCreator := false } }
    else w
  if (w.view? name).isSome then w.withHost (w.host.close v)
  else { w with views := putNamed name v w.views }

def create (w : Workbench) (name : String) (c : Config) : Workbench × Except Error Geometry :=
  match w.host.create c w.self with
  | .error cause => (w, .error cause)
  | .ok (host, v) => ((w.withHost host).keepView name v, .ok v.geometry)

def attach (w : Workbench) (name : String) (c : Config) : Workbench × Except Error Geometry :=
  match w.host.attach c with
  | .error cause => (w, .error cause)
  | .ok v => (w.keepView name v, .ok v.geometry)

/-- Puts memory of another program, all bytes of which are `fill`, under the link of some settings
and tries to attach. The memory goes away with its program, and takes the link along. -/
def attachForeign (w : Workbench) (c : Config) (size : Nat) (fill : UInt8) :
    Workbench × Except Error Geometry :=
  let (host, _) := w.host.addSegment c (Segment.foreign size fill)
  (w.withHost (host.removeLink c), (host.attach c).map (·.geometry))

def attachText (w : Workbench) (c : Config) (content : String) :
    Workbench × Except Error Geometry :=
  let host := w.host.setLink c (.text content)
  (w.withHost host, (host.attach c).map (·.geometry))

def interrupt (w : Workbench) (view : String) (raised : Bool) : Option Workbench :=
  (w.view? view).map fun v =>
    { w with views := putNamed view { v with interrupted := raised } w.views }

/-- Overwrites a part of the header of the segment behind a view. -/
def poke (w : Workbench) (view : String) (change : SegmentHeader → SegmentHeader) :
    Option Workbench :=
  (w.view? view).map fun v =>
    let memory := w.host.segment v
    w.withHost (w.host.setSegment v { memory with header := change memory.header })

def interruptReader (w : Workbench) (name : String) : Option Workbench :=
  (w.site.readers.lookup name).map fun r =>
    let (host, r) := r.interrupt w.host
    { w with site := (Site.mk host (putNamed name r w.site.readers)).settle }

def dropReader (w : Workbench) (name : String) : Workbench :=
  let w := (w.interruptReader name).getD w
  { w with site := { w.site with readers := eraseNamed name w.site.readers } }

def drop (w : Workbench) (name : String) : Option Workbench :=
  (w.parties.lookup name).map fun party =>
    let w := { w with parties := eraseNamed name w.parties }
    match party, w.view? party.view with
    | .producer _ p, some v => { w with site := w.site.dropProducer v p }
    | .consumer _ c, some v => { w with site := w.site.dropConsumer v c }
    | .reader _, _ => w.dropReader name
    | _, none => w

def vacate (w : Workbench) (name : String) : Workbench := (w.drop name).getD w

/-- Ends a view, after letting go of the parties bound through it in the order of their names. -/
def close (w : Workbench) (view : String) : Option Workbench :=
  (w.view? view).map fun v =>
    let mine := w.parties.filter fun entry => entry.2.view == view
    let w := mine.foldl (fun w entry => w.vacate entry.1) w
    { w.withHost (w.host.close v) with views := eraseNamed view w.views }

def acquire (w : Workbench) (view : String) (session : Session) (queue : String)
    (consumers : Nat) : Option (Workbench × Except Error Unit) :=
  (w.view? view).map fun v =>
    let (host, result) := w.host.acquire v session queue consumers
    (w.withHost host, result)

def release (w : Workbench) (view : String) (session : Session) (queue : String) :
    Option (Workbench × Except Error Unit) :=
  (w.view? view).map fun v =>
    let (host, result) := w.host.release v session queue
    (w.withHost host, result)

def disconnect (w : Workbench) (view : String) (session : Session) (queue : String) :
    Option (Workbench × Except Error Unit) :=
  (w.view? view).map fun v =>
    let (host, result) := w.host.disconnect v session queue
    (w.withHost host, result)

/-- Takes up a role, and keeps it under a name; what went by the name before is let go of
afterwards. Also gives the number of slots. -/
def bind (w : Workbench) (view : String) (session : Session) (queue : String)
    (consumerNodes distribution : List NodeId) (name : String) :
    Option (Workbench × Except Error (Binding × Nat)) :=
  (w.view? view).map fun v =>
    let (host, result) := w.host.bind v session queue consumerNodes distribution
    let w := w.withHost host
    let keep (party : Party) : Workbench :=
      let w := w.vacate name
      { w with parties := putNamed name party w.parties }
    match result with
    | .error cause => (w, .error cause)
    | .ok (.producer p) =>
      (keep (.producer view p), .ok (.producer p, (host.queue v p.handle).consumers))
    | .ok (.consumer c) =>
      (keep (.consumer view c), .ok (.consumer c, (host.queue v c.handle).consumers))

/-- Starts a reader under a name, on a view of its own with the settings of another. -/
def startReader (w : Workbench) (view : String) (session : Session) (queue : String)
    (consumerNodes distribution : List NodeId) (limit : Option Nat) (name : String) :
    Option Workbench :=
  (w.view? view).map fun v =>
    let (site, r) := match w.host.attach v.config with
      | .error cause => (w.site, ⟨v, none, limit, [.failed cause]⟩)
      | .ok own => w.site.startReader own session queue consumerNodes distribution limit
    let w := ({ w with site } : Workbench).vacate name
    { w with
      site := { w.site with readers := putNamed name r w.site.readers }
      parties := putNamed name (.reader view) w.parties }

/-- What a reader has to tell since it was last asked, and whether it has ended. -/
def poll (w : Workbench) (name : String) : Option (Workbench × List ReaderNews × Bool) :=
  (w.site.readers.lookup name).map fun r =>
    let told := { r with news := [] }
    ({ w with site := { w.site with readers := putNamed name told w.site.readers } },
      r.news, r.isDone)

def snapshot (w : Workbench) (view queue : String) : Option (Except Error (Option Queue)) :=
  (w.view? view).map fun v =>
    (w.host.segment v).snapshot v.geometry (w.host.liveness v) queue

def snapshotAll (w : Workbench) (view : String) : Option (Except Error (List Queue)) :=
  (w.view? view).map fun v =>
    (w.host.segment v).snapshotAll v.geometry (w.host.liveness v)

def latches (w : Workbench) (view queue : String) :
    Option (Except Error (Option (Bool × List Bool))) :=
  (w.snapshot view queue).map fun result => result.map fun found => found.map fun q =>
    (q.sync.producer.isSet, q.lanes.map (·.latch.isSet))

/-- All live queues as the workbench's own view shows them, once there is one. -/
def observe (w : Workbench) : Option (Except Error (List Queue)) :=
  w.observer.map fun v => (w.host.segment v).snapshotAll v.geometry (w.host.liveness v)

def producer? (w : Workbench) (name : String) : Option (View × Producer) :=
  match w.parties.lookup name with
  | some (.producer view p) => (w.view? view).map fun v => (v, p)
  | _ => none

def consumer? (w : Workbench) (name : String) : Option (View × Consumer) :=
  match w.parties.lookup name with
  | some (.consumer view c) => (w.view? view).map fun v => (v, c)
  | _ => none

def putProducer (w : Workbench) (name : String) (p : Producer) : Workbench :=
  match w.parties.lookup name with
  | some (.producer view _) => { w with parties := putNamed name (.producer view p) w.parties }
  | _ => w

def putConsumer (w : Workbench) (name : String) (c : Consumer) : Workbench :=
  match w.parties.lookup name with
  | some (.consumer view _) => { w with parties := putNamed name (.consumer view c) w.parties }
  | _ => w

def onProducer {α : Type} (w : Workbench) (name : String)
    (work : Config → Producer → Queue → Producer × Queue × α) : Option (Workbench × α) :=
  (w.producer? name).map fun (v, p) =>
    let (p, q, result) := work v.config p (w.host.queue v p.handle)
    ((w.withHost (w.host.setQueue v p.handle q)).putProducer name p, result)

/-- Lets a producer write; the number says what is held back for the slot afterwards. -/
def write (w : Workbench) (name : String) (slot : Nat) (record : Record) :
    Option (Workbench × Except Error Nat) :=
  w.onProducer name fun c p q =>
    let (p, q, result) := p.write c.overflowMemoryLimit q slot record
    (p, q, result.map fun _ => p.pending slot)

def pending (w : Workbench) (name : String) (slot : Nat) : Option Nat :=
  (w.producer? name).map fun (_, p) => p.pending slot

def finish (w : Workbench) (name : String) : Option (Workbench × Except Error Nat) :=
  w.onProducer name fun _ p q => p.finish q

def drain (w : Workbench) (name : String) (timeoutMs : Nat) :
    Option (Workbench × Option (Except Error Nat)) :=
  (w.producer? name).map fun (v, p) =>
    let (site, p, result) := w.site.drain v p timeoutMs
    (({ w with site } : Workbench).putProducer name p, result)

def canPause (w : Workbench) (name : String) : Option (Workbench × Bool × Nat) :=
  w.onProducer name fun _ p q =>
    let (rest, q) := Producer.canPause q
    (p, q, rest, q.entry.paused)

/-- Lets a producer wait on its latch; no result if it would wait for ever. -/
def waitLatch (w : Workbench) (name : String) (timeoutMs : Option Nat) :
    Option (Workbench × Option (Except Error Bool)) :=
  (w.producer? name).map fun (v, p) =>
    let (site, result) := w.site.waitOnProducerLatch v p.handle timeoutMs
    ({ w with site }, result)

def reset (w : Workbench) (name : String) : Option Workbench :=
  match w.consumer? name with
  | some (v, c) =>
    let (q, c) := c.reset (w.host.queue v c.handle)
    some ((w.withHost (w.host.setQueue v c.handle q)).putConsumer name c)
  | none =>
    (w.onProducer name fun _ p q =>
      let (p, q) := p.reset q
      (p, q, ())).map (·.1)

/-- Lets a producer give up on consumers that have not attached, and counts them. -/
def resetNotConnected (w : Workbench) (name : String) : Option (Workbench × Nat) :=
  w.onProducer name fun _ p q =>
    let (n, q) := Producer.resetNotConnected q
    (p, q, n)

def stats (w : Workbench) (name : String) : Option (List Traffic) :=
  (w.producer? name).map fun (v, p) => Producer.stats (w.host.queue v p.handle)

/-- Unbinds a producer, which is gone afterwards; no result if it would wait for ever. -/
def unbind (w : Workbench) (name : String) (failed : Bool) :
    Option (Workbench × Option (Except Error Unit)) :=
  (w.producer? name).map fun (v, p) =>
    let (site, result) := w.site.unbind v p failed
    ({ w with site, parties := eraseNamed name w.parties }, result)

def read (w : Workbench) (name : String) (canWait : Bool) :
    Option (Workbench × Option (Except Error ReadOutcome)) :=
  (w.consumer? name).map fun (v, c) =>
    let (site, c, result) := w.site.read v c canWait
    (({ w with site } : Workbench).putConsumer name c, result)

def isRecord : Option (Except Error ReadOutcome) → Bool
  | some (.ok (.record _)) => true
  | _ => false

/-- Reads without waiting up to the first read that brings no record. Each read that does takes a
row. -/
def readAllFor (s : Site) (v : View) (c : Consumer) :
    Nat → Site × Consumer × List (Option (Except Error ReadOutcome))
  | 0 => (s, c, [])
  | reads + 1 =>
    let (s, c, result) := s.read v c false
    if isRecord result then
      let (s, c, results) := readAllFor s v c reads
      (s, c, result :: results)
    else (s, c, [result])

/-- Lets a consumer read without waiting up to the first read that brings no record. -/
def readAll (w : Workbench) (name : String) :
    Option (Workbench × List (Option (Except Error ReadOutcome))) :=
  (w.consumer? name).map fun (v, c) =>
    let rows := ((w.host.queue v c.handle).lane c.index).slot.ring.rows
    let (site, c, results) := readAllFor w.site v c (rows + 1)
    (({ w with site } : Workbench).putConsumer name c, results)

/-- Runs the program in a process of its own, with the settings of a view in its file. -/
def runProgram (w : Workbench) (c : Config) (args : List String) (input : List UInt8) :
    Workbench × Command.Outcome :=
  let file := Config.File.content (Command.bytesOf c.toDocument)
  let (site, outcome, _) := Command.run w.site w.nextPid args file input
  ({ w with site, nextPid := w.nextPid + 1 }, outcome)

def serve (w : Workbench) (name : String) (c : Config) : Workbench × Except Error Geometry :=
  let pid := w.nextPid
  match w.host.create c pid with
  | .error cause => (w, .error cause)
  | .ok (host, v) =>
    let w := { w.withHost { host with alive := pid :: host.alive } with
      nextPid := pid + 1, servers := (pid, v) :: w.servers }
    w.attach name c

/-- Asks the latest serving process to stop. It takes its segment with it. -/
def stopServing (w : Workbench) : Option (Workbench × Nat) :=
  match w.servers with
  | [] => none
  | (pid, v) :: rest =>
    some ({ w.withHost ((w.host.close v).endProcess pid) with servers := rest }, 0)

end Workbench

end RecordExchange
