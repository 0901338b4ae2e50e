import RecordExchange.Record

set_option autoImplicit false

/-!
The cyclic byte buffer between a producer and one consumer.

A record lies in the buffer as its length word followed by its payload; both may be cut at the end
of the buffer and go on at its start. Full and empty buffers have equal cursors, so the number of
rows tells them apart.
-/

namespace RecordExchange

/-- What a buffer holds: nothing, complete rows, or the middle of a long record. -/
inductive TupleCount where
  | empty
  | rows (n : Nat)
  | longRecord
  deriving DecidableEq, Repr, Inhabited

namespace TupleCount

/-- The count word that stands for a long record in transfer. -/
def longRecordMark : Int := -42

/-- The count a stored word stands for; negative words other than the mark count as empty. -/
def ofWord (word : Int) : TupleCount :=
  if word = longRecordMark then .longRecord
  else if 0 < word then .rows word.toNat
  else .empty

def toWord : TupleCount → Int
  | .empty => 0
  | .rows n => n
  | .longRecord => longRecordMark

/-- Complete rows ready to be read; none while a long record is in transfer. -/
def ready : TupleCount → Nat
  | .rows n => n
  | _ => 0

def render : TupleCount → String
  | .empty => "Empty"
  | .rows n => s!"Rows({n})"
  | .longRecord => "LongRecord"

end TupleCount

/-- A cyclic buffer: its cells, the position of the next byte to read and of the next to write,
and what lies between them. -/
structure Ring where
  bytes : Array UInt8
  read : Nat
  write : Nat
  count : TupleCount
  deriving DecidableEq, Inhabited

namespace Ring

/-- A buffer nobody has used yet, over cells that may hold anything. -/
def fresh (bytes : Array UInt8) : Ring := ⟨bytes, 0, 0, .empty⟩

def capacity (r : Ring) : Nat := r.bytes.size

/-- Complete rows ready to be read. -/
def rows (r : Ring) : Nat := r.count.ready

def free (r : Ring) : Nat :=
  if r.rows = 0 then r.capacity
  else if r.write ≤ r.read then r.read - r.write
  else r.capacity + r.read - r.write

/-- Bytes taken by complete rows. -/
def used (r : Ring) : Nat := r.capacity - r.free

/-- Payload bytes of the longest record the buffer can hold whole, and of one chunk of a longer
one. -/
def chunk (r : Ring) : Nat := r.capacity - LengthWord.size

/-- Whether a record of `len` payload bytes fits right now. -/
def fits (r : Ring) (len : Nat) : Bool := LengthWord.size + len ≤ r.free

/-- Whether a record of `len` payload bytes can never fit whole. -/
def isLong (r : Ring) (len : Nat) : Bool := r.chunk < len

/-- Writes `xs` into the cells from `start` on, going round at the end of the buffer. -/
def storeFrom (bytes : Array UInt8) (start : Nat) : List UInt8 → Array UInt8
  | [] => bytes
  | x :: xs => storeFrom (bytes.setIfInBounds (start % bytes.size) x) (start + 1) xs

/-- The `n` bytes in the cells from `start` on, going round at the end of the buffer. -/
def fetchFrom (bytes : Array UInt8) (start n : Nat) : List UInt8 :=
  (List.range n).map fun i => bytes.getD ((start + i) % bytes.size) 0

def put (r : Ring) (xs : List UInt8) : Ring :=
  { r with bytes := storeFrom r.bytes r.write xs, write := (r.write + xs.length) % r.capacity }

def get (r : Ring) (n : Nat) : List UInt8 × Ring :=
  (fetchFrom r.bytes r.read n, { r with read := (r.read + n) % r.capacity })

/-- Counts one more row. The flag says whether the buffer held none before, so that its reader may
be asleep. -/
def addRow (r : Ring) : Ring × Bool :=
  ({ r with count := .rows (r.rows + 1) }, r.rows == 0)

/-- Appends a record that fits. The flag says whether the buffer held no row before. -/
def push (r : Ring) (payload : Record) : Ring × Bool :=
  ((r.put (LengthWord.encode payload.length)).put payload).addRow

def readLength (r : Ring) : Nat × Ring :=
  let (word, r) := r.get LengthWord.size
  (LengthWord.decode word, r)

def readPayload (r : Ring) (len : Nat) : Record × Ring := r.get len

/-- Counts one row less, once it was handed to the reader. -/
def takeRow (r : Ring) : Ring :=
  { r with count := if 1 < r.rows then .rows (r.rows - 1) else .empty }

/-- What is asserted once a row was taken: no row is left exactly if the cursors meet. -/
def isSettled (r : Ring) : Bool := decide (r.count = .empty ↔ r.read = r.write)

def discard (r : Ring) : Ring := { r with read := 0, write := 0, count := .empty }

end Ring

end RecordExchange
