import RecordExchange.Word

set_option autoImplicit false

/-!
Where everything lies in a segment.

```text
| segment header | registry lock | sync block * max_queues | entry * max_queues |
sync block: | header, latch owners | producer lock | producer latch | (lock, latch) * consumers |
entry:      | queue header | slot state * n | buffer * n |
```

Offsets are computed in 64-bit words, and like these wrap around. Whoever creates a segment or
attaches to one computes the sizes first, in steps that are checked.
-/

namespace RecordExchange

def segmentHeaderSize : Nat := 32

def entryHeaderSize : Nat := 104

def slotStateSize : Nat := 88

def syncHeaderSize : Nat := 8

def ownerSize : Nat := 4

/-- Bytes to which locks, latches and entries are aligned. -/
def cacheLine : Nat := 64

def cellSize : Nat := 192

def alignUp (value alignment : UInt64) : UInt64 :=
  (value + alignment - 1) / alignment * alignment

/-- Rounds up as `alignUp` does, in checked steps. -/
def alignUp? (value alignment : Nat) : Option Nat := do
  let raised ← Word.checked (value + alignment)
  Word.checked ((raised - 1) / alignment * alignment)

def queueHeaderSize (consumers : Nat) : Nat := entryHeaderSize + consumers * slotStateSize

/-- Cells of each buffer when an entry of `queueSize` bytes is split for `consumers` slots. -/
def ringLength (queueSize consumers : Nat) : Nat :=
  (queueSize - queueHeaderSize consumers) / consumers

def slotStateStart (index : Nat) : Nat := entryHeaderSize + index * slotStateSize

/-- Where the buffer of a slot begins in an entry that is split for `consumers` slots with buffers
of `ringLen` bytes. -/
def bufferStart (consumers ringLen index : Nat) : Nat :=
  queueHeaderSize consumers + index * ringLen

structure Geometry where
  maxQueues : Nat
  maxConsumers : Nat
  queueSize : Nat
  deriving DecidableEq, Repr, Inhabited

/-- A geometry with the size of one lock or latch cell. -/
structure Layout where
  geometry : Geometry
  stride : UInt64
  deriving DecidableEq, Repr, Inhabited

namespace Layout

def word (n : Nat) : UInt64 := UInt64.ofNat n

def registryLock (_ : Layout) : UInt64 := alignUp (word segmentHeaderSize) (word cacheLine)

def syncPool (l : Layout) : UInt64 := l.registryLock + l.stride

def syncHeader (l : Layout) : UInt64 :=
  alignUp (word syncHeaderSize + word l.geometry.maxConsumers * word ownerSize) (word cacheLine)

def syncBlockSize (l : Layout) : UInt64 :=
  l.syncHeader + (2 + 2 * word l.geometry.maxConsumers) * l.stride

def entries (l : Layout) : UInt64 :=
  l.syncPool + word l.geometry.maxQueues * l.syncBlockSize

/-- Bytes of an entry; one that is not in use still has a header. -/
def entrySize (l : Layout) : UInt64 :=
  alignUp (max (word l.geometry.queueSize) (word entryHeaderSize)) (word cacheLine)

/-- Bytes of the whole segment, in words that wrap around. `total?` tells whether any does. -/
def totalSize (l : Layout) : UInt64 := l.entries + word l.geometry.maxQueues * l.entrySize

/-- Bytes of the whole segment in checked steps. None of them may leave the 64-bit words. -/
def total? (l : Layout) : Option Nat := do
  let stride := l.stride.toNat
  let lock ← alignUp? segmentHeaderSize cacheLine
  let pool ← Word.checked (lock + stride)
  let owners ← Word.checked (l.geometry.maxConsumers * ownerSize)
  let header ← alignUp? (← Word.checked (syncHeaderSize + owners)) cacheLine
  let pairs ← Word.checked (2 * l.geometry.maxConsumers)
  let cells ← Word.checked ((← Word.checked (2 + pairs)) * stride)
  let block ← Word.checked (header + cells)
  let blocks ← Word.checked (l.geometry.maxQueues * block)
  let entries ← Word.checked (pool + blocks)
  let entry ← alignUp? (max l.geometry.queueSize entryHeaderSize) cacheLine
  let space ← Word.checked (l.geometry.maxQueues * entry)
  Word.checked (entries + space)

def syncBlock (l : Layout) (block : UInt64) : UInt64 := l.syncPool + block * l.syncBlockSize

def consumerLatchOwner (l : Layout) (block consumer : UInt64) : UInt64 :=
  l.syncBlock block + word syncHeaderSize + consumer * word ownerSize

def producerLock (l : Layout) (block : UInt64) : UInt64 := l.syncBlock block + l.syncHeader

def producerLatch (l : Layout) (block : UInt64) : UInt64 := l.producerLock block + l.stride

def consumerLock (l : Layout) (block consumer : UInt64) : UInt64 :=
  l.producerLatch block + l.stride + 2 * consumer * l.stride

def consumerLatch (l : Layout) (block consumer : UInt64) : UInt64 :=
  l.consumerLock block consumer + l.stride

def entry (l : Layout) (index : UInt64) : UInt64 := l.entries + index * l.entrySize

end Layout

end RecordExchange
