import RecordExchange.Segment.Basic

set_option autoImplicit false

/-!
Where the parts of a queue lie, and what stays in place when one of them is put back.

An operation puts back the lane it worked on, or all of them one after another. The slots are what
counts: a latch that has no place is lost, and a slot never is.
-/

namespace RecordExchange

theorem setIfInBounds_getD {α : Type} (cells : Array α) (i : Nat) (other : α) :
    cells.setIfInBounds i (cells.getD i other) = cells := by
  rw [Array.setIfInBounds_def]
  split
  · rename_i inside
    exact Array.set_getElem_self inside
  · rfl

/-- Putting back what a function makes of what is there applies the function. -/
theorem setIfInBounds_getD_modify {α : Type} (cells : Array α) (i : Nat) (f : α → α) (other : α) :
    cells.setIfInBounds i (f (cells.getD i other)) = cells.modify i f := by
  apply Array.ext_getElem?
  intro j
  rw [Array.getElem?_setIfInBounds, Array.getElem?_modify, Array.getD_eq_getD_getElem?]
  by_cases here : i = j
  · subst here
    rw [if_pos rfl, if_pos rfl]
    by_cases inside : i < cells.size
    · rw [if_pos inside, Array.getElem?_eq_getElem inside]
      rfl
    · rw [if_neg inside, Array.getElem?_eq_none (Nat.le_of_not_lt inside)]
      rfl
  · rw [if_neg here, if_neg here]

namespace Queue

variable {q : Queue} {i j : Nat} {l : Lane}

@[simp] theorem setLane_consumers (q : Queue) (i : Nat) (l : Lane) :
    (q.setLane i l).consumers = q.consumers := Array.size_setIfInBounds

theorem lane_setLane_self (inside : i < q.consumers) (l : Lane) :
    ((q.setLane i l).lane i).slot = l.slot := by
  have present : i < q.entry.slots.size := inside
  change (q.entry.slots.setIfInBounds i l.slot).getD i default = l.slot
  rw [Array.getD_eq_getD_getElem?, Array.getElem?_setIfInBounds_self_of_lt present]
  rfl

theorem lane_setLane_other (q : Queue) (other : i ≠ j) (l : Lane) :
    (q.setLane i l).lane j = q.lane j := by
  simp only [lane, setLane, Array.getD_eq_getD_getElem?, Array.getElem?_setIfInBounds_ne other]

@[simp] theorem wakeProducer_lane (q : Queue) (i : Nat) : q.wakeProducer.lane i = q.lane i := rfl

@[simp] theorem onProducerLatch_consumers (q : Queue) (f : Latch → Latch) :
    (q.onProducerLatch f).consumers = q.consumers := rfl

@[simp] theorem onProducerLatch_lane (q : Queue) (f : Latch → Latch) (i : Nat) :
    (q.onProducerLatch f).lane i = q.lane i := rfl

@[simp] theorem setLanesFrom_consumers (q : Queue) (i : Nat) (lanes : List Lane) :
    (q.setLanesFrom i lanes).consumers = q.consumers := by
  induction lanes generalizing q i with
  | nil => rfl
  | cons l rest ih => rw [setLanesFrom, ih, setLane_consumers]

@[simp] theorem setLanesFrom_producer (q : Queue) (i : Nat) (lanes : List Lane) :
    (q.setLanesFrom i lanes).sync.producer = q.sync.producer := by
  induction lanes generalizing q i with
  | nil => rfl
  | cons l rest ih => exact ih ..

theorem lane_setLanesFrom_before (q : Queue) (lanes : List Lane) (before : j < i) :
    (q.setLanesFrom i lanes).lane j = q.lane j := by
  induction lanes generalizing q i with
  | nil => rfl
  | cons l rest ih =>
    rw [setLanesFrom, ih _ (by omega), lane_setLane_other q (by omega)]

theorem lane_setLanesFrom (q : Queue) (lanes : List Lane) (n : Nat) (inside : n < lanes.length)
    (room : i + lanes.length ≤ q.consumers) :
    ((q.setLanesFrom i lanes).lane (i + n)).slot = lanes[n].slot := by
  induction lanes generalizing q i n with
  | nil => cases inside
  | cons l rest ih =>
    rw [List.length_cons] at room inside
    rw [setLanesFrom]
    cases n with
    | zero =>
      rw [lane_setLanesFrom_before _ rest (by omega), Nat.add_zero,
        lane_setLane_self (by omega), List.getElem_cons_zero]
    | succ n =>
      have later := ih (q.setLane i l) (i := i + 1) n (by omega)
        (by rw [setLane_consumers]; omega)
      rw [Nat.add_assoc, Nat.add_comm 1 n] at later
      rw [later, List.getElem_cons_succ]

theorem setLane_lane (q : Queue) (i : Nat) : q.setLane i (q.lane i) = q := by
  rw [setLane, lane]
  simp only [setIfInBounds_getD]

/-- Lanes that are put back behind a lane are those that were there before it changed. -/
theorem lanes_behind (q : Queue) (i n : Nat) (l : Lane) :
    (List.range' (i + 1) n).map (q.setLane i l).lane = (List.range' (i + 1) n).map q.lane := by
  apply List.map_congr_left
  intro j member
  have behind := (List.mem_range'_1.mp member).1
  exact q.lane_setLane_other (by omega) l

@[simp] theorem lanes_length (q : Queue) : q.lanes.length = q.consumers := by
  rw [lanes, List.length_map, List.length_range]

@[simp] theorem mapLanes_consumers (q : Queue) (f : Lane → Lane) :
    (q.mapLanes f).consumers = q.consumers := setLanesFrom_consumers ..

theorem lane_mapLanes (inside : i < q.consumers) (f : Lane → Lane) :
    ((q.mapLanes f).lane i).slot = (f (q.lane i)).slot := by
  have size : (q.lanes.map f).length = q.consumers := by rw [List.length_map, lanes_length]
  have put := lane_setLanesFrom (i := 0) q (q.lanes.map f) i (by omega) (by omega)
  rw [Nat.zero_add] at put
  rw [mapLanes, setLanes, put]
  simp only [lanes, List.getElem_map, List.getElem_range]

/-- Every slot has a latch. -/
def Wired (q : Queue) : Prop := q.consumers ≤ q.sync.consumers.size

theorem Wired.setLane (wired : q.Wired) (i : Nat) (l : Lane) : (q.setLane i l).Wired := by
  change _ ≤ (q.sync.consumers.setIfInBounds i l.latch).size
  rw [setLane_consumers, Array.size_setIfInBounds]
  exact wired

/-- In a queue with all its latches, a lane goes back whole. -/
theorem Wired.lane_setLane (wired : q.Wired) (inside : i < q.consumers) (l : Lane) :
    (q.setLane i l).lane i = l := by
  have present : i < q.sync.consumers.size := Nat.lt_of_lt_of_le inside wired
  have latch : ((q.setLane i l).lane i).latch = l.latch := by
    change (q.sync.consumers.setIfInBounds i l.latch).getD i default = l.latch
    rw [Array.getD_eq_getD_getElem?, Array.getElem?_setIfInBounds_self_of_lt present]
    rfl
  calc (q.setLane i l).lane i
      = ⟨((q.setLane i l).lane i).slot, ((q.setLane i l).lane i).latch⟩ := rfl
    _ = l := by rw [lane_setLane_self inside, latch]

theorem Wired.lane_setLanesFrom (wired : q.Wired) (lanes : List Lane) (n : Nat)
    (inside : n < lanes.length) (room : i + lanes.length ≤ q.consumers) :
    (q.setLanesFrom i lanes).lane (i + n) = lanes[n] := by
  induction lanes generalizing q i n with
  | nil => cases inside
  | cons l rest ih =>
    rw [List.length_cons] at room inside
    rw [setLanesFrom]
    cases n with
    | zero =>
      rw [lane_setLanesFrom_before _ rest (by omega), Nat.add_zero,
        wired.lane_setLane (by omega), List.getElem_cons_zero]
    | succ n =>
      have later := ih (wired.setLane i l) (i := i + 1) n (by omega)
        (by rw [setLane_consumers]; omega)
      rw [Nat.add_assoc, Nat.add_comm 1 n] at later
      rw [later, List.getElem_cons_succ]

theorem Wired.lane_mapLanes (wired : q.Wired) (inside : i < q.consumers) (f : Lane → Lane) :
    (q.mapLanes f).lane i = f (q.lane i) := by
  have size : (q.lanes.map f).length = q.consumers := by rw [List.length_map, lanes_length]
  have put := wired.lane_setLanesFrom (i := 0) (q.lanes.map f) i (by omega) (by omega)
  rw [Nat.zero_add] at put
  rw [mapLanes, setLanes, put]
  simp only [lanes, List.getElem_map, List.getElem_range]

end Queue

namespace Segment

variable {s : Segment} {h : Handle}

theorem setQueue_queue (s : Segment) (h : Handle) : s.setQueue h (s.queue h) = s := by
  simp only [setQueue, setQueueAt, queue, queueAt, setIfInBounds_getD]

/-- The places a handle names exist. -/
structure Has (s : Segment) (h : Handle) : Prop where
  entry : h.entry < s.entries.size
  block : h.block < s.blocks.size

theorem Has.setQueue (has : s.Has h) (q : Queue) : (s.setQueue h q).Has h :=
  ⟨by rw [Segment.setQueue, setQueueAt, Array.size_setIfInBounds]; exact has.entry,
    by rw [Segment.setQueue, setQueueAt, Array.size_setIfInBounds]; exact has.block⟩

theorem Has.queue_setQueue (has : s.Has h) (q : Queue) : (s.setQueue h q).queue h = q := by
  simp only [queue, queueAt, Segment.setQueue, setQueueAt, Array.getD_eq_getD_getElem?,
    Array.getElem?_setIfInBounds_self_of_lt has.entry,
    Array.getElem?_setIfInBounds_self_of_lt has.block, Option.getD_some]

theorem Has.remove (has : s.Has h) (entry : Nat) (name : String) : (s.remove entry name).Has h := by
  simp only [Segment.remove]
  split
  · exact ⟨by rw [Array.size_setIfInBounds]; exact has.entry,
      by rw [Array.size_setIfInBounds]; exact has.block⟩
  · exact ⟨has.entry, has.block⟩

theorem remove_slots (s : Segment) (entry : Nat) (name : String) (h : Handle) :
    ((s.remove entry name).queue h).entry.slots = (s.queue h).entry.slots := by
  simp only [Segment.remove]
  split
  · simp only [queue, queueAt, Array.getD_eq_getD_getElem?, Array.getElem?_setIfInBounds]
    by_cases same : entry = h.entry
    · by_cases present : h.entry < s.entries.size
      · simp only [same, present, ↓reduceIte, Option.getD_some]
      · simp only [same, present, ↓reduceIte, Array.getElem?_eq_none (Nat.le_of_not_lt present)]
    · simp only [same, ↓reduceIte]
  · rfl

theorem Has.dropReference (has : s.Has h) : (s.dropReference h).Has h := by
  simp only [Segment.dropReference]
  split
  · exact (has.setQueue _).remove _ _
  · exact has.setQueue _

theorem Has.dropReference_slots (has : s.Has h) :
    ((s.dropReference h).queue h).entry.slots = (s.queue h).entry.slots := by
  simp only [Segment.dropReference]
  split
  · rw [remove_slots, has.queue_setQueue]
    rfl
  · rw [has.queue_setQueue]
    rfl

end Segment

end RecordExchange
