import RecordExchange.Proofs.Commons.Lifecycle
import RecordExchange.Proofs.Exchange.Runs
import RecordExchange.Proofs.Queue.Backlog
import RecordExchange.Proofs.Queue.Buffers

set_option autoImplicit false

/-!
Producers that would like to rest, over whole runs.

However often a place of the registry is laid out, all buffers of a queue are as long as the sizes of
the segment make them, and their cursors stay inside. So a producer that asks whether it may rest
compares what lies in the active buffers with one length, which does not depend on the slot it looked
at last. Asking changes nothing but the number of times the answer was yes.
-/

namespace RecordExchange

namespace Segment

variable {s : Segment} {h : Handle} {e i : Nat}

theorem format_measures (present : e < s.entries.size) (b : Nat) (name : String)
    {consumers ringLen : Nat} (room : LengthWord.size < ringLen) (inside : i < consumers) :
    ((s.setQueueAt e b ⟨(s.queueAt e b).entry.format name consumers ringLen b,
      (s.queueAt e b).sync.assign e consumers⟩).slotAt e i).ring.Measures ringLen := by
  rw [slotAt, setQueueAt_entry present, Entry.format_slot _ name ringLen b inside]
  exact Ring.fresh_measures (Entry.cells_size ..) (Nat.zero_lt_of_lt room)

def countPause (s : Segment) (e : Nat) : Segment :=
  { s with entries := s.entries.modify e fun entry => { entry with paused := entry.paused + 1 } }

theorem countPause_paused (has : s.Has h) :
    ((s.countPause h.entry).queue h).entry.paused = (s.queue h).entry.paused + 1 := by
  simp only [queue, queueAt, countPause, Array.getD_eq_getD_getElem?, Array.getElem?_modify,
    Array.getElem?_eq_getElem has.entry, ↓reduceIte, Option.map_some, Option.getD_some]

/-- A producer that asks whether it may rest leaves everything but the count. -/
theorem setQueue_canPause (s : Segment) (h : Handle) :
    s.setQueue h (Producer.canPause (s.queue h)).2 =
      if (Producer.canPause (s.queue h)).1 = true then s.countPause h.entry else s := by
  rw [Producer.canPause]
  split
  · have counted := setIfInBounds_getD_modify s.entries h.entry
      (fun entry => { entry with paused := entry.paused + 1 }) default
    rw [if_pos rfl, setQueue, setQueueAt, countPause, ← counted]
    dsimp only [queue, queueAt]
    rw [setIfInBounds_getD]
  · rw [if_neg Bool.false_ne_true]
    exact setQueue_queue s h

end Segment

namespace Commons

variable {x : Commons}

/-- Every buffer of a queue is as long as the sizes of the segment make it, with both cursors in
it. -/
def Measured (x : Commons) : Prop :=
  ∀ e i, i < (x.memory.entries.getD e default).slots.size →
    (x.memory.slotAt e i).ring.Measures
      (ringLength x.geometry.queueSize (x.memory.entries.getD e default).slots.size)

theorem Measured.start (c : Config) (creator : ProcessId) : (Commons.start c creator).Measured := by
  intro e i inside
  have none : ((Commons.start c creator).memory.entries.getD e default).slots.size = 0 := by
    change ((Array.replicate c.maxQueues Entry.unused).getD e default).slots.size = 0
    rw [Array.getD_eq_getD_getElem?, Array.getElem?_replicate]
    split
    · rfl
    · rfl
  rw [none] at inside
  cases inside

theorem Measured.perform (measured : x.Measured) (founded : x.Founded) (move : Move) :
    (x.perform move).Measured := by
  intro e i inside
  rw [perform_geometry]
  by_cases same : (x.perform move).turn e = x.turn e
  · have kept := perform_slotwise Lane.keepsMeasures_obeys Lane.keepsMeasures_others
      (fun _ _ => id) founded move same
    rw [kept.size] at inside ⊢
    exact kept.slots i _ (measured e i inside)
  · obtain ⟨present, b, name, consumers, ringLen, ⟨length, room⟩, made⟩ :=
      laidOut_formatted founded same
    have size : ((x.perform move).memory.entries.getD e default).slots.size = consumers := by
      rw [made, Segment.setQueueAt_entry present]
      exact Array.size_ofFn
    rw [size] at inside ⊢
    rw [← length, made]
    exact Segment.format_measures present b name room inside

theorem measured_run (c : Config) (creator : ProcessId) (moves : List Move) :
    ((start c creator).run moves).Measured :=
  (run_induction (motive := fun y => y.Founded ∧ y.Measured) ⟨.start c creator, .start c creator⟩
    (fun _ move before => ⟨before.1.perform move, before.2.perform before.1 move⟩) moves).2

/-- A producer that asks whether it may rest changes nothing but the count of its rests. -/
theorem perform_canPause {k : Nat} {seat : ProducerSeat} (here : x.producers[k]? = some seat)
    (bound : seat.stand = .bound) :
    x.perform (.produce k (.call .canPause)) =
      if (Producer.canPause (x.memory.queue seat.producer.handle)).1 = true then
        { x with memory := x.memory.countPause seat.producer.handle.entry }
      else x := by
  have asked : seat.step x.memory (.call .canPause) =
      (seat, x.memory.setQueue seat.producer.handle
        (Producer.canPause (x.memory.queue seat.producer.handle)).2) := by
    obtain ⟨p, limit, stand, turn⟩ := seat
    cases bound
    rfl
  rw [perform, produce_eq here, asked, set_same here, Segment.setQueue_canPause]
  split
  · rfl
  · rfl

/-- When a producer may rest, whatever went before and however many slots its queue has: some slot is
active, every active slot has a complete row, and the bytes taken in the active buffers are on
average, rounded down, more than half a buffer, rounded down. A buffer that waits for the next part
of a long record has no row. Whoever may rest thus has buffered more than half of what the active
slots have room for. Asking counts one rest if the answer is yes, and changes nothing else. -/
theorem pause_iff (c : Config) (creator : ProcessId) (moves : List Move) {k : Nat}
    {seat : ProducerSeat} :
    let x := (start c creator).run moves
    let h := seat.producer.handle
    let q := x.memory.queue h
    let length := ringLength c.queueSize q.consumers
    let total := ∑ i ∈ q.active, (q.lane i).slot.ring.used
    let may := (Producer.canPause q).1
    let y := x.perform (.produce k (.call .canPause))
    x.producers[k]? = some seat → seat.stand = .bound →
      (may = true ↔
          q.active.Nonempty ∧
            (∀ i ∈ q.active, ∃ n, 0 < n ∧ (q.lane i).slot.ring.count = .rows n) ∧
            length / 2 < total / q.active.card) ∧
        (may = true → q.active.card * length < 2 * total) ∧
        (∀ i, i < q.consumers → (q.lane i).slot.ring.capacity = length ∧
          (q.lane i).slot.ring.used + (q.lane i).slot.ring.free = length) ∧
        y = (if may = true then { x with memory := x.memory.countPause h.entry } else x) ∧
        (y.memory.queue h).entry.paused = q.entry.paused + if may = true then 1 else 0 := by
  intro x h q length total may y here bound
  have founded : x.Founded := (Founded.start c creator).run moves
  have sizes : x.geometry = ⟨c.maxQueues, c.maxConsumers, c.queueSize⟩ := run_geometry ..
  have measures (i : Nat) (inside : i < q.consumers) :
      (q.lane i).slot.ring.Measures length := by
    have measured := measured_run c creator moves h.entry i inside
    rw [show ((start c creator).run moves).geometry = _ from sizes] at measured
    exact measured
  have exact_iff : may = true ↔ q.active.Nonempty ∧
      (∀ i ∈ q.active, ∃ n, 0 < n ∧ (q.lane i).slot.ring.count = .rows n) ∧
      length / 2 < total / q.active.card := by
    have rows (i : Nat) := Ring.rows_pos_iff (q.lane i).slot.ring
    simp only [← rows]
    exact Producer.canPause_iff fun i inside => (measures i inside).capacity
  have asked := perform_canPause here bound
  refine ⟨exact_iff, fun yes => ?_, fun i inside => ?_, asked, ?_⟩
  · exact mul_lt_two_mul_of_half_lt_average (exact_iff.mp yes).2.2
  · exact ⟨(measures i inside).capacity, (measures i inside).used_add_free⟩
  · have held : seat.holding ∈ x.ledger.producers := List.mem_map_of_mem (List.mem_of_getElem? here)
    have has := (founded.built.serves (founded.sound.producers _ held)).has
    rw [show y = _ from asked]
    split
    · exact Segment.countPause_paused has
    · rfl

def nineBytes : Config := { narrow with queueSize := 298 }

/-- A producer writes for both of its consumers, and nobody reads. -/
def backedUp : List Move :=
  [.acquire undisturbed ⟨100, 0⟩ "rows" 2, .bind undisturbed ⟨100, 0⟩ "rows" [1, 2] [0, 1, 2] 64,
    .produce 0 (.call (.write 0 [1])), .produce 0 (.call (.write 1 [2, 3]))]

/-- It may rest then: each buffer has a row, and eleven of eighteen bytes are taken. -/
theorem pause_iff_backedUp :
    let x := (start nineBytes 1).run backedUp
    let q := x.memory.queue ⟨0, 0, "rows"⟩
    ∃ seat, x.producers[0]? = some seat ∧ seat.stand = .bound ∧
      q.active.card * ringLength nineBytes.queueSize q.consumers = 18 ∧
      (∑ i ∈ q.active, (q.lane i).slot.ring.used) = 11 ∧ (Producer.canPause q).1 = true ∧
      q.entry.paused = 0 ∧
      ((x.perform (.produce 0 (.call .canPause))).memory.queue ⟨0, 0, "rows"⟩).entry.paused = 1 := by
  intro x q
  have stands : x.producers[0]?.map (fun seat => (seat.stand, seat.producer.handle)) =
      some (.bound, ⟨0, 0, "rows"⟩) := by decide +kernel
  obtain ⟨seat, here, found⟩ := Option.map_eq_some_iff.mp stands
  obtain ⟨bound, handle⟩ := Prod.mk.inj found
  have pause := pause_iff nineBytes 1 backedUp here bound
  rw [handle] at pause
  obtain ⟨may, -, -, -, counted⟩ := pause
  have yes : (Producer.canPause q).1 = true := by
    refine may.mpr ⟨⟨0, by decide +kernel⟩, fun i active => ⟨1, Nat.one_pos, ?_⟩, by decide +kernel⟩
    have all : ∀ i ∈ q.active, (q.lane i).slot.ring.count = .rows 1 := by decide +kernel
    exact all i active
  have rested : q.entry.paused = 0 := by decide +kernel
  rw [if_pos yes, rested] at counted
  exact ⟨seat, here, bound, by decide +kernel, by decide +kernel, yes, rested, counted⟩

end Commons

end RecordExchange
