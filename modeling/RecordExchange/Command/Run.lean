import RecordExchange.Command.Grammar
import RecordExchange.Command.Listing
import RecordExchange.Config.Document
import RecordExchange.Host.Site

set_option autoImplicit false

/-!
The commands of the program, each run by a process of its own on a site.
-/

namespace RecordExchange.Command

inductive Failure where
  | error (cause : Error)
  /-- A sentence of the command's own. -/
  | sentence (text : String)
  /-- The input is no UTF-8 text. -/
  | badInput
  /-- The command would wait for ever. -/
  | stuck
  deriving DecidableEq, Repr

def Failure.message : Failure → String
  | .error cause => cause.message
  | .sentence text => text
  | .badInput => "stream did not contain valid UTF-8"
  | .stuck => "nobody is left to wait for"

structure Outcome where
  exit : Nat
  output : List UInt8
  failure : Option Failure
  /-- The closing remark of a command that moved records. -/
  summary : Option String
  deriving DecidableEq, Repr

namespace Outcome

def success (output : List UInt8) : Outcome := ⟨0, output, none, none⟩

def remark (output : List UInt8) (text : String) : Outcome := ⟨0, output, none, some text⟩

def failed (failure : Failure) (output : List UInt8) : Outcome := ⟨1, output, some failure, none⟩

def misuse : Outcome := ⟨2, [], none, none⟩

end Outcome

def bytesOf (s : String) : List UInt8 := s.toUTF8.toList

/-- The lines of an input: each ends with a line feed or the input, and a carriage return right in
front of the line feed does not count. -/
def splitLines (bytes : List UInt8) : List (List UInt8) :=
  go bytes []
where
  go : List UInt8 → List UInt8 → List (List UInt8)
    | [], [] => []
    | [], line => [line.reverse]
    | b :: rest, line =>
      if b = 0x0a then
        (match line with
          | 0x0d :: shorter => shorter.reverse
          | line => line.reverse) :: go rest []
      else go rest (b :: line)

/-- Writes lines to the targets in turn, `written` having been written before. A line that is no
text ends the work, as does a failed write. -/
def writeLines (v : View) (targets : List Nat) :
    Site → Producer → Nat → List (List UInt8) → Site × Producer × Except Failure Nat
  | s, p, written, [] => (s, p, .ok written)
  | s, p, written, line :: rest =>
    if (Text.ofUtf8? line).isNone then (s, p, .error .badInput)
    else
      let target := targets.getD (written % targets.length) 0
      let (p, q, result) :=
        p.write v.config.overflowMemoryLimit (s.host.queue v p.handle) target line
      let s := { s with host := s.host.setQueue v p.handle q }
      match result with
      | .error cause => (s, p, .error (.error cause))
      | .ok () => writeLines v targets s p (written + 1) rest

/-- Drains until nothing is held back any more, the readers getting on between two rounds. -/
def drainAll (v : View) (timeoutMs : Nat) :
    Nat → Site → Producer → Site × Producer × Except Failure Unit
  | 0, s, p => (s, p, .error .stuck)
  | rounds + 1, s, p =>
    match s.drain v p timeoutMs with
    | (s, p, none) => (s, p, .error .stuck)
    | (s, p, some (.error cause)) => (s, p, .error (.error cause))
    | (s, p, some (.ok 0)) => (s, p, .ok ())
    | (s, p, some (.ok _)) => drainAll v timeoutMs rounds s.settle p

/-- Gives up the claim on a queue and ends with `outcome`, or with the failure to do so. -/
def releaseThen (s : Site) (v : View) (session : Session) (queue : String) (outcome : Outcome) :
    Site × Outcome :=
  match s.host.release v session queue with
  | (host, .error cause) => ({ s with host }, .failed (.error cause) outcome.output)
  | (host, .ok ()) => ({ s with host }, outcome)

/-- Unbinds a producer, gives up the claim on its queue, and ends with `outcome`. A failed step is
the last one. -/
def unbindThen (s : Site) (v : View) (p : Producer) (isFailed : Bool) (session : Session)
    (queue : String) (outcome : Outcome) : Site × Outcome :=
  match s.unbind v p isFailed with
  | (s, none) => (s, .failed .stuck [])
  | (s, some (.error cause)) => (s, .failed (.error cause) [])
  | (s, some (.ok ())) => releaseThen s v session queue outcome

/-- Sends the lines of the input to the consumers of a queue in turn. -/
def produce (s : Site) (v : View) (session : Session) (queue : String) (consumers : List NodeId)
    (drainTimeoutMs : Nat) (input : List UInt8) : Site × Outcome :=
  match s.host.acquire v session queue consumers.length with
  | (host, .error cause) => ({ s with host }, .failed (.error cause) [])
  | (host, .ok ()) =>
    match host.bind v session queue consumers (session.node :: consumers) with
    | (host, .error cause) => ({ s with host }, .failed (.error cause) [])
    | (host, .ok (.consumer c)) =>
      let (s, outcome) := releaseThen { s with host } v session queue
        (.failed (.sentence s!"shared queue {queue} already has a producer") [])
      (s.dropConsumer v c, outcome)
    | (host, .ok (.producer p)) =>
      let s := { s with host }
      let targets := p.targets
      if targets.isEmpty then
        unbindThen s v p false session queue
          (.failed (.sentence s!"no consumer slot in shared queue {queue}") [])
      else
        match writeLines v targets s p 0 (splitLines input) with
        | (s, p, .error failure) => (s.dropProducer v p, .failed failure [])
        | (s, p, .ok written) =>
          match drainAll v drainTimeoutMs Site.patience s p with
          | (s, p, .error failure) => (s.dropProducer v p, .failed failure [])
          | (s, p, .ok ()) =>
            unbindThen s v p false session queue (.remark [] s!"Wrote {written} records")

structure Consumption where
  site : Site
  consumer : Consumer
  output : List UInt8
  records : Nat
  failure : Option Failure

def readRecords (v : View) : Nat → Consumption → Consumption
  | 0, state => { state with failure := some .stuck }
  | reads + 1, state =>
    match state.site.read v state.consumer true with
    | (s, c, some (.ok (.record payload))) =>
      readRecords v reads
        { state with
            site := s, consumer := c
            output := state.output ++ payload ++ [0x0a]
            records := state.records + 1 }
    | (s, c, some (.ok .eof)) => { state with site := s, consumer := c }
    | (s, c, some (.ok .wouldBlock)) =>
      readRecords v reads { state with site := s, consumer := c }
    | (s, c, some (.error cause)) =>
      { state with site := s, consumer := c, failure := some (.error cause) }
    | (s, c, none) => { state with site := s, consumer := c, failure := some .stuck }

/-- Prints the records a queue holds for a node, one per line. -/
def consume (s : Site) (v : View) (session : Session) (queue : String) (consumers : Nat) :
    Site × Outcome :=
  match s.host.acquire v session queue consumers with
  | (host, .error cause) => ({ s with host }, .failed (.error cause) [])
  | (host, .ok ()) =>
    match host.bind v session queue [] [] with
    | (host, .error cause) =>
      releaseThen { s with host } v session queue (.failed (.error cause) [])
    | (host, .ok (.producer p)) =>
      unbindThen { s with host } v p true session queue
        (.failed (.sentence s!"shared queue {queue} has no producer") [])
    | (host, .ok (.consumer c)) =>
      let done := readRecords v Site.patience ⟨{ s with host }, c, [], 0, none⟩
      let s := done.site.dropConsumer v done.consumer
      match done.failure with
      | some failure => (s, .failed failure done.output)
      | none =>
        releaseThen s v session queue
          (.remark done.output s!"Read {done.records} records")

def inspect (s : Site) (v : View) (queue : Option String) : Outcome :=
  let memory := s.host.segment v
  let live := s.host.liveness v
  match queue with
  | none =>
    match memory.snapshotAll v.geometry live with
    | .error cause => .failed (.error cause) []
    | .ok queues => .success (bytesOf (String.join (queues.map Queue.listing)))
  | some name =>
    match memory.snapshot v.geometry live name with
    | .error cause => .failed (.error cause) []
    | .ok none => .failed (.sentence s!"shared queue {name} not found") []
    | .ok (some q) => .success (bytesOf q.listing)

/-- Runs a task other than serving, in a process of its own, on the segment the settings name. -/
def runTask (s : Site) (pid : ProcessId) (c : Config) (task : Task) (input : List UInt8) :
    Site × Outcome :=
  let onView (work : View → Site × Outcome) : Site × Outcome :=
    match s.host.attach c with
    | .error cause => (s, .failed (.error cause) [])
    | .ok v => work v
  match task with
  | .config => (s, .success (bytesOf c.toDocument))
  | .inspect queue => onView fun v => (s, inspect s v queue)
  | .produce queue node consumers timeout =>
    onView fun v => produce s v ⟨pid, node⟩ queue consumers timeout input
  | .consume queue node consumers => onView fun v => consume s v ⟨pid, node⟩ queue consumers
  | .serve =>
    match s.host.create c pid with
    | .error cause => (s, .failed (.error cause) [])
    | .ok (host, v) => ({ s with host := host.close v }, .success [])

def versionText : String := "squeue 0.1.0\n"

/-- Runs the program. The file of settings is read once the arguments make sense; the last result
is the text to leave in the file if it was missing. -/
def run (s : Site) (pid : ProcessId) (args : List String) (file : Config.File)
    (input : List UInt8) : Site × Outcome × Option String :=
  match request args with
  | .misuse => (s, .misuse, none)
  | .help => (s, .success [], none)
  | .version => (s, .success (bytesOf versionText), none)
  | .run _ task =>
    match Config.load file with
    | (.error cause, left) => (s, .failed (.error cause) [], left)
    | (.ok c, left) =>
      let (s, outcome) := runTask s pid c task input
      (s, outcome, left)

end RecordExchange.Command
