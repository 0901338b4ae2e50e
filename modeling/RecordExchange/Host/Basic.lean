import RecordExchange.Binding
import RecordExchange.Host.FileTree
import RecordExchange.Producer.Closing
import RecordExchange.Word

set_option autoImplicit false

/-!
The host the processes run on: which of them are alive, the segments they share, and the link files
through which a segment is found.

A process works on a segment through a view, which it gets by creating the segment or by attaching
to one that is there.
-/

namespace RecordExchange

inductive LinkTarget where
  /-- The name of a segment. -/
  | segment (id : Nat)
  /-- Some other text, which no segment is named by. -/
  | text (content : String)
  deriving DecidableEq, Repr

structure Host where
  /-- The processes that are alive. -/
  alive : List ProcessId
  /-- All segments ever made, by their names' numbers. -/
  segments : Array Segment
  /-- Link files, and the directories around them. -/
  files : FileTree LinkTarget
  deriving Inhabited

structure View where
  segment : Nat
  config : Config
  geometry : Geometry
  /-- The process whose death ends all work on the segment. -/
  owner : ProcessId
  /-- The process was asked to stop. -/
  interrupted : Bool
  /-- The segment goes away with this view. -/
  isCreator : Bool
  deriving DecidableEq, Repr, Inhabited

namespace Host

def commonDirectories : List Place :=
  [["bin"], ["dev"], ["dev", "shm"], ["etc"], ["home"], ["opt"], ["proc"], ["root"], ["run"],
   ["sbin"], ["sys"], ["tmp"], ["usr"], ["usr", "bin"], ["usr", "lib"], ["var"], ["var", "tmp"]]

/-- A machine on which nobody has made a segment yet, with one more directory. The null device
reads as an empty file. -/
def start (alive : List ProcessId) (directory : String) : Host where
  alive
  segments := #[]
  files := ⟨FileTree.names directory :: commonDirectories, [(["dev", "null"], .text "")]⟩

def everybody : ProcessId := Word.values32 - 1

def firstProcess : ProcessId := 1

def isAlive (h : Host) (pid : ProcessId) : Bool :=
  pid != 0 && (pid == firstProcess || pid == everybody || h.alive.contains pid)

def liveness (h : Host) (v : View) : Liveness := ⟨v.interrupted, v.owner, h.isAlive v.owner⟩

def segment (h : Host) (v : View) : Segment := h.segments.getD v.segment default

def setSegment (h : Host) (v : View) (s : Segment) : Host :=
  { h with segments := h.segments.setIfInBounds v.segment s }

def queue (h : Host) (v : View) (handle : Handle) : Queue := (h.segment v).queue handle

def setQueue (h : Host) (v : View) (handle : Handle) (q : Queue) : Host :=
  h.setSegment v ((h.segment v).setQueue handle q)

/-- Why a text in a link file leads to no segment: names of segments are drawn at random, so that
no text is one. Slashes in front do not count. -/
def nameFault (content : String) : SegmentNameFault :=
  let name := content.toList.dropWhile (· = '/')
  if name.isEmpty || name.contains '/' || name.contains '\x00' then .refused
  else if FileTree.isLong (String.ofList name) then .tooLong
  else if name = ['.'] || name = ['.', '.'] then .refused
  else .missing

def openLink (h : Host) (path : String) : Except MappingFault Nat :=
  match h.files.lookUp path with
  | .error fault => .error (.linkNotOpened fault)
  | .ok none => .error (.linkNotOpened .missing)
  | .ok (some .directory) => .error .linkIsDirectory
  | .ok (some (.file (.segment id))) => .ok id
  | .ok (some (.file (.text content))) => .error (.segmentNotOpened (nameFault content))

/-- Maps a segment another process created. Sizes come from its header, timings from `c`. -/
def attach (h : Host) (c : Config) : Except Error View := do
  let id ← (h.openLink c.linkPath).mapError .sharedMemory
  let s := h.segments.getD id default
  if s.header.isMarked s.size then
    match s.header.layout.total? with
    | none => throw .panicked
    | some total =>
      if total ≤ s.size then
        return ⟨id, c, s.header.geometry, s.header.creator, false, false⟩
      else throw (.badSegment c.linkPath)
  else throw (.badSegment c.linkPath)

def setLink (h : Host) (c : Config) (target : LinkTarget) : Host :=
  { h with files := h.files.put c.linkPath target }

def addSegment (h : Host) (c : Config) (s : Segment) : Host × Nat :=
  let id := h.segments.size
  ({ h with segments := h.segments.push s }.setLink c (.segment id), id)

/-- Creates the segment, which belongs to the process `creator` from then on; if something stands
at its link's path already, attaches instead. -/
def create (h : Host) (c : Config) (creator : ProcessId) : Except Error (Host × View) := do
  let c ← c.validate
  if (Segment.layoutFor c).total?.isNone then throw .panicked
  match h.files.isVacant c.linkPath with
  | .error fault => throw (.sharedMemory (.linkNotCreated fault))
  | .ok false => return (h, ← h.attach c)
  | .ok true =>
    let (h, id) := h.addSegment c (Segment.create c creator)
    return (h, ⟨id, c, ⟨c.maxQueues, c.maxConsumers, c.queueSize⟩, creator, false, true⟩)

def removeLink (h : Host) (c : Config) : Host := { h with files := h.files.remove c.linkPath }

/-- Ends a view. Its creator's takes the link file along, whatever the file leads to by now; other
views keep their memory. -/
def close (h : Host) (v : View) : Host := if v.isCreator then h.removeLink v.config else h

/-- A process comes to its end. -/
def endProcess (h : Host) (pid : ProcessId) : Host :=
  { h with alive := h.alive.filter (· != pid) }

def acquire (h : Host) (v : View) (session : Session) (name : String) (consumers : Nat) :
    Host × Except Error Unit :=
  let (s, result) := (h.segment v).acquire v.geometry (h.liveness v) v.config.raceRetryLimit session
    name consumers
  (h.setSegment v s, result)

def release (h : Host) (v : View) (session : Session) (name : String) :
    Host × Except Error Unit :=
  let (s, result) := (h.segment v).release v.geometry (h.liveness v) session name
  (h.setSegment v s, result)

def disconnect (h : Host) (v : View) (session : Session) (name : String) :
    Host × Except Error Unit :=
  let (s, result) := (h.segment v).disconnectConsumer v.geometry (h.liveness v) session name
  (h.setSegment v s, result)

def bind (h : Host) (v : View) (session : Session) (name : String)
    (consumerNodes distribution : List NodeId) : Host × Except Error Binding :=
  let (s, result) := (h.segment v).bind v.geometry (h.liveness v) session name consumerNodes
    distribution
  (h.setSegment v s, result)

end Host

end RecordExchange
