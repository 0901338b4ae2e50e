import RecordExchange.Proofs.Exchange.Steps

set_option autoImplicit false

/-!
Runs of an exchange on a queue nobody has used yet.

A run is any sequence of actions. Most of what is said of runs is said of each action where it is
performed; a reader that finds a row although its last read ended inside a long record is where
runs go apart.
-/

namespace RecordExchange

/-- Nobody has used the queue yet, and each of its buffers has room for a byte beside a length
word. -/
def Queue.IsUnused (q : Queue) : Prop :=
  ∀ i, i < q.consumers → (q.lane i).slot.status = .active ∧
    ∃ cells, LengthWord.size < cells.size ∧ (q.lane i).slot.ring = Ring.fresh cells

namespace Entry

theorem cells_size (memory : Array UInt8) (start n : Nat) : (cells memory start n).size = n := by
  have written : (memory.extract start (start + n)).size ≤ n := by
    rw [Array.size_extract]
    omega
  rw [cells, Array.size_append, Array.size_replicate]
  omega

/-- A queue that was just laid out was not used yet, whatever its memory holds. -/
theorem format_isUnused (e : Entry) (sync : SyncBlock) (name : String) (consumers block : Nat)
    {ringLen : Nat} (room : LengthWord.size < ringLen) :
    Queue.IsUnused ⟨e.format name consumers ringLen block, sync⟩ := by
  intro i inside
  have size : i < consumers := by
    rw [← Array.size_ofFn (n := consumers)]
    exact inside
  have laid : (Queue.lane ⟨e.format name consumers ringLen block, sync⟩ i).slot =
      Slot.fresh (cells e.image (bufferStart consumers ringLen i - entryHeaderSize) ringLen) := by
    simp only [Queue.lane, format, Array.getD_eq_getD_getElem?, Array.getElem?_ofFn, size,
      ↓reduceDIte, Option.getD_some]
  rw [laid]
  refine ⟨rfl, _, ?_, rfl⟩
  rw [cells_size]
  exact room

end Entry

/-- A new reader of an unused slot is to get nothing yet. -/
theorem Port.Sound.unused {q : Queue} {i : Nat} (unused : q.IsUnused) (inside : i < q.consumers)
    (keeps : Bool) (consumer : Consumer) :
    (Port.start consumer).Sound keeps (q.lane i).slot none := by
  intro _
  obtain ⟨active, cells, room, fresh⟩ := unused i inside
  have carries : (q.lane i).slot.ring.CarriesRows 0 [] := by
    rw [fresh]
    exact Ring.carriesRows_nil room rfl (Nat.zero_lt_of_lt room) rfl
  refine ⟨0, [], ⟨.rows 0 [], [], ⟨carries, fun _ _ => rfl, fun ended => ?_⟩, rfl, rfl⟩,
    .between _ _ rfl rfl, [], rfl, .nil⟩
  exact nomatch active.symm.trans ended

namespace Exchange

/-- Every action of a run is one that `allowed` admits where it is performed. -/
def Along (allowed : Exchange → Action → Prop) : Exchange → List Action → Prop
  | _, [] => True
  | x, action :: rest => allowed x action ∧ Along allowed (x.perform action).1 rest

/-- The action has the reader of slot `i` look for a row. -/
def LooksAtRow (x : Exchange) (i : Nat) : Action → Prop
  | .read j _ => j = i ∧ i < x.queue.consumers ∧ (x.ports i).reading = none
  | .resume j => j = i ∧ i < x.queue.consumers ∧ (x.ports i).reading = some .row
  | _ => False

/-- A reader looks for a row after a read of its ended inside a long record, and finds one. -/
def MeetsRest (x : Exchange) (i : Nat) (action : Action) : Prop :=
  x.LooksAtRow i action ∧ (x.ports i).torn = true ∧ (x.slot i).ring.rows ≠ 0

/-- A reader takes what it finds after a read of its ended inside a long record for a record that
fits the buffer. -/
def TakesRest (x : Exchange) (i : Nat) (action : Action) : Prop :=
  x.MeetsRest i action ∧ (x.slot i).ring.readLength.1 ≤ (x.slot i).ring.chunk

variable {x : Exchange} {n i : Nat} {memory : Segment} {handle : Handle}

/-- An exchange on an unused queue is in order. -/
theorem Sound.start (has : memory.Has handle) (unused : (memory.queue handle).IsUnused)
    (limit : Nat) (session : Session) (mapping : List ConsumerMapping) (readers : Nat → Session) :
    (Exchange.start memory handle limit session mapping readers).Sound
      (memory.queue handle).consumers := by
  refine ⟨has, rfl, Array.size_replicate, fun _ => rfl, fun i inside => ?_⟩
  have held : (Exchange.start memory handle limit session mapping readers).held i = none :=
    Producer.start_held ..
  rw [held]
  exact Port.Sound.unused unused inside _ _

/-- A run keeps the exchange together. -/
theorem Sound.run (sound : x.Sound n) (actions : List Action) : (x.run actions).Sound n := by
  induction actions generalizing x with
  | nil => exact sound
  | cons action rest ih => exact ih (sound.perform action)

/-- Memory with a queue of one slot, whose buffer takes one byte of a record at a time. -/
def narrow : Segment where
  size := 0
  header := default
  entries := #[{ Entry.unused with slots := #[Slot.fresh #[0, 0, 0, 0, 0]] }]
  blocks := #[SyncBlock.free 1]
  corrupted := false

def narrowHandle : Handle := ⟨0, 0, ""⟩

theorem narrow_has : narrow.Has narrowHandle := ⟨by decide, by decide⟩

theorem narrow_isUnused : (narrow.queue narrowHandle).IsUnused := by
  intro i inside
  obtain rfl : i = 0 := Nat.lt_one_iff.mp inside
  exact ⟨rfl, #[0, 0, 0, 0, 0], by decide, rfl⟩

/-- An exchange on `narrow` that holds back in memory what a few records take. -/
def narrowStart : Exchange := start narrow narrowHandle 64 default [] fun _ => default

end Exchange

end RecordExchange
