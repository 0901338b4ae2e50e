import RecordExchange.Config
import RecordExchange.Segment.Queue
import RecordExchange.Word

set_option autoImplicit false

/-!
A segment: the memory that all processes on a host share.

It starts with a header that tells a process which attaches how the rest is laid out; behind it lie
the registry of queues and the pool of sync blocks.
-/

namespace RecordExchange

/-- What the first bytes of a segment say. -/
structure SegmentHeader where
  magic : UInt64
  creator : ProcessId
  maxQueues : Nat
  maxConsumers : Nat
  stride : Nat
  queueSize : Nat
  deriving DecidableEq, Repr, Inhabited

def segmentMagic : UInt64 := 0x5351_5545_5545_0001

namespace SegmentHeader

def geometry (h : SegmentHeader) : Geometry := ⟨h.maxQueues, h.maxConsumers, h.queueSize⟩

def layout (h : SegmentHeader) : Layout := ⟨h.geometry, UInt64.ofNat h.stride⟩

/-- Whether a mapping of `size` bytes holds a header at all, and one with the right number. -/
def isMarked (h : SegmentHeader) (size : Nat) : Bool :=
  segmentHeaderSize ≤ size && h.magic == segmentMagic

end SegmentHeader

/-- The shared memory. -/
structure Segment where
  /-- Bytes mapped. -/
  size : Nat
  header : SegmentHeader
  entries : Array Entry
  blocks : Array SyncBlock
  /-- Some process found entry and sync block at odds and stopped dead. -/
  corrupted : Bool
  deriving DecidableEq, Inhabited

namespace Segment

def layoutFor (c : Config) : Layout :=
  ⟨⟨c.maxQueues, c.maxConsumers, c.queueSize⟩, UInt64.ofNat cellSize⟩

def create (c : Config) (creator : ProcessId) : Segment :=
  let header : SegmentHeader :=
    ⟨segmentMagic, creator, c.maxQueues % Word.values32, c.maxConsumers % Word.values32, cellSize,
      c.queueSize⟩
  { size := (layoutFor c).totalSize.toNat
    header
    entries := Array.replicate c.maxQueues Entry.unused
    blocks := Array.replicate c.maxQueues (SyncBlock.free c.maxConsumers)
    corrupted := false }

/-- Memory of another program: `size` bytes that all hold `fill`. -/
def foreign (size : Nat) (fill : UInt8) : Segment :=
  let word (bytes : Nat) : Nat :=
    (List.range bytes).foldl (fun n _ => n * Word.values8 + fill.toNat) 0
  { size
    header := ⟨UInt64.ofNat (word 8), word 4, word 4, word 4, word 4, word 8⟩
    entries := #[]
    blocks := #[]
    corrupted := false }

def queueAt (s : Segment) (entry block : Nat) : Queue :=
  ⟨s.entries.getD entry default, s.blocks.getD block default⟩

def setQueueAt (s : Segment) (entry block : Nat) (q : Queue) : Segment :=
  { s with
      entries := s.entries.setIfInBounds entry q.entry
      blocks := s.blocks.setIfInBounds block q.sync }

def queue (s : Segment) (h : Handle) : Queue := s.queueAt h.entry h.block

def setQueue (s : Segment) (h : Handle) (q : Queue) : Segment := s.setQueueAt h.entry h.block q

def handleAt (s : Segment) (entry : Nat) : Handle :=
  let e := s.entries.getD entry default
  ⟨entry, e.block, e.name⟩

def find? (s : Segment) (maxQueues : Nat) (name : String) : Option Nat :=
  (List.range maxQueues).find? fun i => (s.entries.getD i default).isNamed name

/-- Frees an entry whose last reference is gone, and its sync block. An entry that is not the
expected one, or a block that serves another, means that the registry is corrupted. -/
def remove (s : Segment) (entry : Nat) (name : String) : Segment :=
  let e := s.entries.getD entry default
  let b := s.blocks.getD e.block default
  if e.isNamed name && b.queue == some entry then
    { s with
        entries := s.entries.setIfInBounds entry { e with live := false }
        blocks := s.blocks.setIfInBounds e.block b.release }
  else { s with corrupted := true }

/-- Gives up one reference to the queue in a handle, and the queue with the last one. -/
def dropReference (s : Segment) (h : Handle) : Segment :=
  let q := (s.queue h).dropReference
  let s := s.setQueue h q
  if q.entry.references = 0 then s.remove h.entry h.name else s

end Segment

end RecordExchange
