import RecordExchange.Error
import RecordExchange.Ring.Basic

set_option autoImplicit false

/-!
Records longer than the buffer.

A long record passes through the buffer in chunks. The producer writes the number of bytes still to
come and one chunk; the consumer takes both, leaves the number of bytes it has so far in the first
four cells of the buffer, and marks the count, which asks the producer for the next chunk.
-/

namespace RecordExchange

/-- A long record on the consumer's side: its full length and the bytes received so far. -/
structure LongRecord where
  length : Nat
  received : List UInt8
  deriving DecidableEq, Repr, Inhabited

namespace LongRecord

/-- Nothing received yet. -/
def start (length : Nat) : LongRecord := ⟨length, []⟩

def offset (l : LongRecord) : Nat := l.received.length

def missing (l : LongRecord) : Nat := l.length - l.offset

def payload (l : LongRecord) : Record := l.received ++ List.replicate l.missing 0

end LongRecord

namespace Ring

/-- The producer's half of the transfer, made while no complete row is queued: the full length and
the first chunk into an empty buffer, the rest from where the consumer stands otherwise. The flag
says whether the last byte is out. -/
def pushLong (r : Ring) (payload : Record) : Except Error (Ring × Bool) :=
  match r.count with
  | .empty =>
    let r := (r.put (LengthWord.encode payload.length)).put (payload.take r.chunk)
    .ok ({ r with count := .rows 1 }, false)
  | .longRecord =>
    let offset := LengthWord.decode (fetchFrom r.bytes 0 LengthWord.size)
    if offset = 0 ∨ payload.length ≤ offset then
      .error (.longRecordMismatch payload.length offset)
    else
      let remaining := payload.length - offset
      let part := (payload.drop offset).take (min remaining r.chunk)
      let pushed := (r.put (LengthWord.encode remaining)).put part
      .ok ({ pushed with count := .rows 1 }, decide (remaining ≤ r.chunk))
  | .rows _ => .ok (r, false)

/-- The consumer's half: takes the next chunk, `remaining` being the number that preceded it. The
flag says whether the record is complete; if not, the count is marked and the offset left for the
producer. -/
def pullChunk (r : Ring) (record : LongRecord) (remaining : Nat) : Ring × LongRecord × Bool :=
  let (part, r) := r.get (min remaining r.chunk)
  let record := { record with received := record.received ++ part }
  if record.offset = record.length then (r, record, true)
  else
    ({ r with
        bytes := storeFrom r.bytes 0 (LengthWord.encode record.offset)
        count := .longRecord },
      record, false)

/-- Takes the number of bytes still to come before the next chunk and checks that it continues
`record`. The word is gone in either case. -/
def resumeLong (r : Ring) (record : LongRecord) : Ring × Except Error Nat :=
  let (remaining, r) := r.readLength
  if remaining = record.missing then (r, .ok remaining)
  else (r, .error (.longRecordMismatch record.missing remaining))

end Ring

end RecordExchange
