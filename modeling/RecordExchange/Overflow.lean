import RecordExchange.Record

set_option autoImplicit false

/-!
The records a producer holds back for one consumer.

They stay in memory up to a limit of payload bytes. Once a record does not fit under the limit, it
and all later ones go to a temporary file, until the file has been read back empty; so the order is
kept across both places.
-/

namespace RecordExchange

/-- A temporary file of records, each behind its length word, and the position the next one is
read from. -/
structure SpillFile where
  bytes : Array UInt8
  position : Nat
  deriving DecidableEq, Inhabited

namespace SpillFile

def empty : SpillFile := ⟨#[], 0⟩

def append (f : SpillFile) (record : Record) : SpillFile :=
  { f with bytes := f.bytes ++ LengthWord.encode record.length ++ record }

def isDrained (f : SpillFile) : Bool := f.bytes.size ≤ f.position

def unread (f : SpillFile) : Nat := f.bytes.size - f.position

def next (f : SpillFile) : Option Record × SpillFile :=
  if f.isDrained then (none, f)
  else
    let start := f.position + LengthWord.size
    let length := LengthWord.decode (f.bytes.extract f.position start).toList
    (some (f.bytes.extract start (start + length)).toList, { f with position := start + length })

theorem unread_next_lt (f : SpillFile) (record : Record) (found : f.next.1 = some record) :
    f.next.2.unread < f.unread := by
  cases more : f.isDrained with
  | true => simp [next, more] at found
  | false =>
    simp only [isDrained, decide_eq_false_iff_not, Nat.not_le] at more
    simp only [next, isDrained, Nat.not_le.mpr more, decide_false, Bool.false_eq_true, ↓reduceIte,
      unread, LengthWord.size]
    omega

theorem next_of_isDrained (f : SpillFile) (drained : f.isDrained = true) : f.next = (none, f) := by
  simp [next, drained]

end SpillFile

/-- What a producer holds back for one consumer. -/
structure OverflowStore where
  /-- Records in memory, oldest first. -/
  memory : List Record
  /-- Payload bytes in memory. -/
  memoryBytes : Nat
  /-- Most payload bytes kept in memory. -/
  limit : Nat
  /-- The file that takes what memory does not, while there is one. -/
  spill : Option SpillFile
  /-- A record read back from the file and not handed out yet. -/
  head : Option Record
  /-- Records held. -/
  length : Nat
  deriving DecidableEq, Inhabited

namespace OverflowStore

def empty (limit : Nat) : OverflowStore := ⟨[], 0, limit, none, none, 0⟩

def isEmpty (s : OverflowStore) : Bool := s.length = 0

def isSpilled (s : OverflowStore) : Bool := s.spill.isSome

def push (s : OverflowStore) (record : Record) : OverflowStore :=
  let s := match s.spill with
    | some file => { s with spill := some (file.append record) }
    | none =>
      if s.memoryBytes + record.length ≤ s.limit then
        { s with memory := s.memory ++ [record], memoryBytes := s.memoryBytes + record.length }
      else { s with spill := some (SpillFile.empty.append record) }
  { s with length := s.length + 1 }

def front (s : OverflowStore) : Option Record × OverflowStore :=
  match s.memory, s.head, s.spill with
  | record :: _, _, _ => (some record, s)
  | [], some record, _ => (some record, s)
  | [], none, some file =>
    let (record, file) := file.next
    (record, { s with spill := some file, head := record })
  | [], none, none => (none, s)

/-- Gives up the file once it is read back and nothing read ahead is left. -/
def closeDrained (s : OverflowStore) : OverflowStore :=
  if s.head.isNone && s.spill.any SpillFile.isDrained then { s with spill := none } else s

def pop (s : OverflowStore) : Option Record × OverflowStore :=
  match s.memory, s.head, s.spill with
  | record :: rest, _, _ =>
    (some record,
      { s with
          memory := rest
          memoryBytes := s.memoryBytes - record.length
          length := s.length - 1 })
  | [], some record, _ =>
    (some record, closeDrained { s with head := none, length := s.length - 1 })
  | [], none, some file =>
    let (record, file) := file.next
    let taken := if record.isSome then 1 else 0
    (record, closeDrained { s with spill := some file, length := s.length - taken })
  | [], none, none => (none, closeDrained s)

/-- A number that shrinks with every record taken: records at hand and bytes in the file. -/
def weight (s : OverflowStore) : Nat :=
  s.memory.length + (if s.head.isSome then 1 else 0) + (s.spill.elim 0 SpillFile.unread)

theorem weight_closeDrained_le (s : OverflowStore) : s.closeDrained.weight ≤ s.weight := by
  unfold closeDrained
  split
  · simp [weight]
  · exact Nat.le_refl _

theorem weight_front_le (s : OverflowStore) : s.front.2.weight ≤ s.weight := by
  unfold front
  split <;> try exact Nat.le_refl _
  rename_i file noMemory noHead hasFile
  cases read : file.next.1 with
  | none => cases drained : file.isDrained with
    | true =>
      simp only [SpillFile.next_of_isDrained file drained, weight, noMemory, noHead, hasFile]
      exact Nat.le_refl _
    | false => simp [SpillFile.next, drained] at read
  | some record =>
    have less := SpillFile.unread_next_lt file record read
    simp only [weight, noMemory, noHead, hasFile, read, Option.elim, Option.isSome]
    simp only [↓reduceIte, Bool.false_eq_true]
    omega

theorem weight_pop_lt (s : OverflowStore) (held : s.memory ≠ [] ∨ s.head.isSome) :
    s.pop.2.weight < s.weight := by
  unfold pop
  split
  · rename_i record rest hasMemory
    simp [weight, hasMemory]
  · rename_i record noMemory hasHead
    refine Nat.lt_of_le_of_lt (weight_closeDrained_le _) ?_
    simp [weight, hasHead]
  · rename_i noMemory noHead hasFile
    simp [noMemory, noHead] at held
  · rename_i noMemory noHead hasFile
    simp [noMemory, noHead] at held

theorem held_of_front (s : OverflowStore) (record : Record) (found : s.front.1 = some record) :
    s.front.2.memory ≠ [] ∨ s.front.2.head.isSome := by
  unfold front at found ⊢
  split
  · rename_i first rest hasMemory
    simp [hasMemory]
  · rename_i first noMemory hasHead
    simp [hasHead]
  · rename_i noMemory noHead hasFile
    simp only [noMemory, noHead, hasFile] at found
    simp [found]
  · rename_i noMemory noHead hasFile
    simp [noMemory, noHead, hasFile] at found

/-- Handing out the front record makes the store lighter, wherever the record came from. -/
theorem weight_pop_front_lt (s : OverflowStore) (record : Record)
    (found : s.front.1 = some record) : s.front.2.pop.2.weight < s.weight :=
  Nat.lt_of_lt_of_le (weight_pop_lt _ (held_of_front s record found)) (weight_front_le s)

end OverflowStore

end RecordExchange
