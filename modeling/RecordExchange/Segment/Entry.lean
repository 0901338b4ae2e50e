import RecordExchange.Segment.Layout
import RecordExchange.Slot
import RecordExchange.Text.Utf8
import RecordExchange.Word

set_option autoImplicit false

/-!
Registry entries and sync blocks, the two tables of a segment.

An entry holds a queue: its name, its producer, its references, and its slots with their buffers. A
sync block holds the latches of the queue it serves. They are found and freed apart from each
other; a live entry names the block that serves it.
-/

namespace RecordExchange

def keySize : Nat := 64

def nameKey (name : String) : List UInt8 :=
  let bytes := Text.toUtf8 name
  bytes ++ List.replicate (keySize - bytes.length) 0

/-- The name a key stands for, which ends at the first zero. -/
def keyName (key : List UInt8) : String := Text.ofUtf8Lossy (key.takeWhile (· != 0))

/-- One place of the registry. What an entry held before stays in its memory until it is laid out
for another queue. -/
structure Entry where
  /-- The name, as bytes. -/
  key : List UInt8
  /-- Whether the place is taken. -/
  live : Bool
  producerPid : ProcessId
  producerNode : NodeId
  /-- The sync block that serves the queue. -/
  block : Nat
  /-- Claims on the queue; a 32-bit word. -/
  references : UInt32
  /-- How often the producer paused. -/
  paused : Nat
  slots : Array Slot
  /-- Memory behind the last buffer; what lies beyond it was never written and reads as zero. -/
  spare : Array UInt8
  deriving DecidableEq, Inhabited

namespace Entry

def unused : Entry :=
  ⟨List.replicate keySize 0, false, 0, Slot.unassigned, 0, 0, 0, #[], #[]⟩

def name (e : Entry) : String := keyName e.key

def isNamed (e : Entry) (name : String) : Bool := e.live && e.name == name

end Entry

/-- Eight bytes, least significant first. -/
def doubleWord (n : Nat) : List UInt8 :=
  LengthWord.encode n ++ LengthWord.encode (n / Word.values32)

/-- Four bytes of a signed number. -/
def signedWord (n : Int) : List UInt8 := LengthWord.encode (n % Word.values32).toNat

/-- The bytes of a slot's state, whose buffer starts `start` bytes into the entry. -/
def Slot.image (s : Slot) (start : Nat) : List UInt8 :=
  LengthWord.encode s.pid ++ signedWord s.node ++ signedWord s.ring.count.toWord ++
  LengthWord.encode s.status.toWord ++
  doubleWord start ++ doubleWord s.ring.capacity ++
  doubleWord s.ring.read ++ doubleWord s.ring.write ++
  doubleWord s.traffic.writes ++ doubleWord s.traffic.reads ++
  doubleWord s.traffic.overflowWrites ++ doubleWord s.traffic.overflowReads ++
  doubleWord s.traffic.overflowReturns

def slotImages : List Slot → Nat → List UInt8
  | [], _ => []
  | s :: rest, start => s.image start ++ slotImages rest (start + s.ring.capacity)

namespace Entry

/-- The entry's memory behind its header: slot states, buffers, and the rest. -/
def image (e : Entry) : Array UInt8 :=
  let slots := e.slots.toList
  (slotImages slots (queueHeaderSize slots.length)).toArray ++
    (slots.map fun s => s.ring.bytes).foldl (· ++ ·) #[] ++ e.spare

/-- `n` bytes of a memory from `start` on; beyond its end it was never written. -/
def cells (memory : Array UInt8) (start n : Nat) : Array UInt8 :=
  let written := memory.extract start (start + n)
  written ++ Array.replicate (n - written.size) 0

/-- Lays the entry out for a new queue with one reference and no producer. The buffers keep what
lay in their memory. -/
def format (e : Entry) (name : String) (consumers ringLen block : Nat) : Entry :=
  let memory := e.image
  { key := nameKey name
    live := true
    producerPid := 0
    producerNode := Slot.unassigned
    block
    references := 1
    paused := 0
    slots := Array.ofFn fun i : Fin consumers =>
      Slot.fresh (cells memory (bufferStart consumers ringLen i - entryHeaderSize) ringLen)
    spare :=
      memory.extract (bufferStart consumers ringLen consumers - entryHeaderSize) memory.size }

end Entry

/-- The latches of one queue: the producer's and one per consumer slot. -/
structure SyncBlock where
  /-- The entry the block serves, none while it lies in the pool. -/
  queue : Option Nat
  producer : Latch
  consumers : Array Latch
  deriving DecidableEq, Inhabited

namespace SyncBlock

def free (maxConsumers : Nat) : SyncBlock :=
  ⟨none, Latch.idle, Array.replicate maxConsumers Latch.idle⟩

/-- Takes the block for an entry, clearing the latches its slots will use. -/
def assign (b : SyncBlock) (entry consumers : Nat) : SyncBlock :=
  { queue := some entry
    producer := Latch.idle
    consumers := b.consumers.mapIdx fun i latch => if i < consumers then Latch.idle else latch }

def release (b : SyncBlock) : SyncBlock := { b with queue := none }

end SyncBlock

end RecordExchange
