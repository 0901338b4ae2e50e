import RecordExchange.Producer.Closing
import RecordExchange.Proofs.Outlet
import RecordExchange.Proofs.Queue.Lanes

set_option autoImplicit false

/-!
What the operations of a producer do to one slot and to what is held back for it.

All of them go through the outlets one by one. For the slot one looks at, a call is the work on its
own outlet, or nothing.
-/

namespace RecordExchange

namespace Outlet

theorem finishAll_length (outlets : List Outlet) :
    (finishAll outlets).1.length = outlets.length := by
  induction outlets with
  | nil => rfl
  | cons o rest ih =>
    rw [finishAll]
    split
    · rfl
    · rw [List.length_cons, ih, List.length_cons]

theorem finishAll_getElem (outlets : List Outlet) (n : Nat) (inside : n < outlets.length) :
    (finishAll outlets).1[n]? = some outlets[n] ∨
      (finishAll outlets).1[n]? = some outlets[n].finish.1 := by
  induction outlets generalizing n with
  | nil => cases inside
  | cons o rest ih =>
    rw [finishAll]
    cases n with
    | zero =>
      right
      split
      · rename_i finished cause failed
        change some finished = some o.finish.1
        rw [failed]
      · rename_i finished pending done
        change some finished = some o.finish.1
        rw [done]
    | succ n =>
      rw [List.length_cons] at inside
      split
      · left
        rename_i finished cause failed
        change (finished :: rest)[n + 1]? = some rest[n]
        rw [List.getElem?_cons_succ, List.getElem?_eq_getElem]
      · exact ih n (by omega)

theorem finishAll_error (outlets : List Outlet) (cause : Error)
    (failed : (finishAll outlets).2 = .error cause) : ∃ o ∈ outlets, o.finish.2 = .error cause := by
  induction outlets with
  | nil => cases failed
  | cons o rest ih =>
    rw [finishAll] at failed
    split at failed
    · rename_i finished other stopped
      cases failed
      exact ⟨o, List.mem_cons_self .., by rw [stopped]⟩
    · rename_i finished pending done
      have mapped : (finishAll rest).2.map (pending + ·) = .error cause := failed
      cases later : (finishAll rest).2 with
      | error other =>
        rw [later] at mapped
        cases mapped
        obtain ⟨found, member, fails⟩ := ih later
        exact ⟨found, List.mem_cons_of_mem _ member, fails⟩
      | ok sum =>
        rw [later] at mapped
        cases mapped

end Outlet

namespace Producer

variable {p : Producer} {q : Queue} {i j : Nat}

def held (p : Producer) (i : Nat) : Option OverflowStore := p.overflow.getD i none

def Sized (p : Producer) (q : Queue) : Prop := p.overflow.size = q.consumers

theorem setOutlet_held_self (sized : p.Sized q) (inside : i < q.consumers) (o : Outlet) :
    (p.setOutlet q i o).1.held i = o.held := by
  have present : i < p.overflow.size := by rw [sized]; exact inside
  change (p.overflow.setIfInBounds i o.held).getD i none = o.held
  rw [Array.getD_eq_getD_getElem?, Array.getElem?_setIfInBounds_self_of_lt present]
  rfl

theorem setOutlet_held_other (p : Producer) (q : Queue) (other : i ≠ j) (o : Outlet) :
    (p.setOutlet q i o).1.held j = p.held j := by
  simp only [held, setOutlet, Array.getD_eq_getD_getElem?, Array.getElem?_setIfInBounds_ne other]

theorem setOutlet_sized (sized : p.Sized q) (i : Nat) (o : Outlet) :
    (p.setOutlet q i o).1.Sized (p.setOutlet q i o).2 := by
  change (p.overflow.setIfInBounds i o.held).size = (q.setLane i o.lane).consumers
  rw [Array.size_setIfInBounds, Queue.setLane_consumers]
  exact sized

theorem setOutletsFrom_queue (p : Producer) (q : Queue) (i : Nat) (outlets : List Outlet) :
    (p.setOutletsFrom q i outlets).2 = q.setLanesFrom i (outlets.map (·.lane)) := by
  induction outlets generalizing p q i with
  | nil => rfl
  | cons o rest ih => exact ih ..

theorem setOutletsFrom_sized (sized : p.Sized q) (i : Nat) (outlets : List Outlet) :
    (p.setOutletsFrom q i outlets).1.Sized (p.setOutletsFrom q i outlets).2 := by
  induction outlets generalizing p q i with
  | nil => exact sized
  | cons o rest ih => exact ih (setOutlet_sized sized i o) (i + 1)

theorem setOutletsFrom_handle (p : Producer) (q : Queue) (i : Nat) (outlets : List Outlet) :
    (p.setOutletsFrom q i outlets).1.handle = p.handle := by
  induction outlets generalizing p q i with
  | nil => rfl
  | cons o rest ih => exact ih ..

theorem setOutletsFrom_held_before (p : Producer) (q : Queue) (outlets : List Outlet)
    (before : j < i) : (p.setOutletsFrom q i outlets).1.held j = p.held j := by
  induction outlets generalizing p q i with
  | nil => rfl
  | cons o rest ih =>
    rw [setOutletsFrom]
    exact (ih _ _ (by omega)).trans (setOutlet_held_other p q (by omega) o)

theorem setOutletsFrom_held (sized : p.Sized q) (outlets : List Outlet) (n : Nat)
    (inside : n < outlets.length) (room : i + outlets.length ≤ q.consumers) :
    (p.setOutletsFrom q i outlets).1.held (i + n) = outlets[n].held := by
  induction outlets generalizing p q i n with
  | nil => cases inside
  | cons o rest ih =>
    rw [List.length_cons] at room inside
    rw [setOutletsFrom]
    cases n with
    | zero =>
      rw [List.getElem_cons_zero, Nat.add_zero]
      exact (setOutletsFrom_held_before _ _ rest (by omega)).trans
        (setOutlet_held_self sized (by omega) o)
    | succ n =>
      have later := ih (setOutlet_sized sized i o) (i := i + 1) n (by omega)
        (by change _ ≤ (q.setLane i o.lane).consumers; rw [Queue.setLane_consumers]; omega)
      rw [Nat.add_assoc, Nat.add_comm 1 n] at later
      exact later

theorem setOutlet_outlet (p : Producer) (q : Queue) (i : Nat) :
    p.setOutlet q i (p.outlet q i) = (p, q) := by
  rw [setOutlet, outlet, setIfInBounds_getD, Queue.setLane_lane]

theorem outlet_setOutlet_other (p : Producer) (q : Queue) (other : i ≠ j) (o : Outlet) :
    (p.setOutlet q i o).1.outlet (p.setOutlet q i o).2 j = p.outlet q j := by
  have lane : (p.setOutlet q i o).2.lane j = q.lane j := q.lane_setLane_other other o.lane
  have held : (p.setOutlet q i o).1.overflow.getD j none = p.overflow.getD j none :=
    setOutlet_held_other p q other o
  rw [outlet, lane, held, outlet]

theorem outlets_behind (p : Producer) (q : Queue) (i : Nat) (o : Outlet) (n : Nat) :
    (List.range' (i + 1) n).map ((p.setOutlet q i o).1.outlet (p.setOutlet q i o).2) =
      (List.range' (i + 1) n).map (p.outlet q) := by
  apply List.map_congr_left
  intro j member
  have behind := (List.mem_range'_1.mp member).1
  exact outlet_setOutlet_other p q (by omega) o

theorem setOutletsFrom_outlets (p : Producer) (q : Queue) (i n : Nat) :
    p.setOutletsFrom q i ((List.range' i n).map (p.outlet q)) = (p, q) := by
  induction n generalizing i with
  | zero => rfl
  | succ n ih =>
    rw [List.range'_succ, List.map_cons, setOutletsFrom, setOutlet_outlet]
    exact ih (i + 1)

theorem outlets_length (p : Producer) (q : Queue) : (p.outlets q).length = q.consumers := by
  rw [outlets, List.length_map, List.length_range]

/-- A pass over the outlets finishes the one of a slot, or stops before it. -/
theorem finish_slot (sized : p.Sized q) (inside : i < q.consumers) :
    (((p.finish q).2.1.lane i).slot = (q.lane i).slot ∧ (p.finish q).1.held i = p.held i) ∨
      (((p.finish q).2.1.lane i).slot = (p.outlet q i).finish.1.lane.slot ∧
        (p.finish q).1.held i = (p.outlet q i).finish.1.held) := by
  obtain ⟨finished, same⟩ : ∃ finished, finished = (Outlet.finishAll (p.outlets q)).1 := ⟨_, rfl⟩
  have length : finished.length = q.consumers := by
    rw [same, Outlet.finishAll_length, outlets_length]
  have slot : ((p.finish q).2.1.lane i).slot = finished[i].lane.slot := by
    change ((p.setOutletsFrom q 0 (Outlet.finishAll (p.outlets q)).1).2.lane i).slot = _
    have put := Queue.lane_setLanesFrom (i := 0) q (finished.map (·.lane)) i
      (by rw [List.length_map]; omega) (by rw [List.length_map]; omega)
    rw [Nat.zero_add, List.getElem_map] at put
    rw [← same, setOutletsFrom_queue, put]
  have held : (p.finish q).1.held i = finished[i].held := by
    change (p.setOutletsFrom q 0 (Outlet.finishAll (p.outlets q)).1).1.held i = _
    have put := setOutletsFrom_held (i := 0) sized finished i (by omega) (by omega)
    rw [Nat.zero_add] at put
    rw [← same, put]
  have there : i < (p.outlets q).length := by
    rw [outlets_length]
    exact inside
  have before : (p.outlets q)[i] = p.outlet q i := by
    simp only [outlets, List.getElem_map, List.getElem_range]
  have worked := Outlet.finishAll_getElem (p.outlets q) i there
  rw [before, ← same, List.getElem?_eq_getElem (by omega)] at worked
  rw [slot, held]
  rcases worked with untouched | done
  · left
    injection untouched with untouched
    rw [untouched]
    exact ⟨rfl, rfl⟩
  · right
    injection done with done
    rw [done]
    exact ⟨rfl, rfl⟩

theorem finish_handle (p : Producer) (q : Queue) : (p.finish q).1.handle = p.handle :=
  setOutletsFrom_handle ..

theorem finish_sized (sized : p.Sized q) : (p.finish q).1.Sized (p.finish q).2.1 :=
  setOutletsFrom_sized sized ..

theorem finish_consumers (p : Producer) (q : Queue) :
    (p.finish q).2.1.consumers = q.consumers := by
  change (p.setOutletsFrom q 0 _).2.consumers = _
  rw [setOutletsFrom_queue, Queue.setLanesFrom_consumers]

theorem finish_latch (p : Producer) (q : Queue) :
    (p.finish q).2.1.sync.producer = q.sync.producer := by
  change (p.setOutletsFrom q 0 _).2.sync.producer = _
  rw [setOutletsFrom_queue, Queue.setLanesFrom_producer]

theorem drainStep_producer (p : Producer) (q : Queue) : (p.drainStep q).1 = (p.finish q).1 := by
  rw [drainStep]
  split
  · rename_i passed
    rw [passed]
  · rename_i passed
    rw [passed]
  · rename_i passed
    rw [passed]

theorem finish_error {cause : Error} (failed : (p.finish q).2.2 = .error cause) :
    ∃ i, i < q.consumers ∧ (p.outlet q i).finish.2 = .error cause := by
  obtain ⟨o, member, fails⟩ := Outlet.finishAll_error _ cause failed
  obtain ⟨i, inside, rfl⟩ := List.mem_map.mp member
  exact ⟨i, List.mem_range.mp inside, fails⟩

/-- A record for a slot that is there, which a length word can describe. -/
theorem write_of_fits (limit : Nat) {record : Record} (inside : i < q.consumers)
    (short : record.length ≤ LengthWord.maxLength) :
    p.write limit q i record =
      ((p.setOutlet q i ((p.outlet q i).write limit record).1).1,
        (p.setOutlet q i ((p.outlet q i).write limit record).1).2,
        ((p.outlet q i).write limit record).2) := by
  have present : ¬ q.consumers ≤ i := by omega
  have described : ¬ LengthWord.maxLength < record.length := by omega
  simp only [write, present, LengthWord.check, described, ↓reduceIte]

/-- Any other record is refused, and nothing changes. -/
theorem write_refused (p : Producer) (limit : Nat) (q : Queue) {record : Record}
    (refused : ¬ (i < q.consumers ∧ record.length ≤ LengthWord.maxLength)) :
    ∃ cause, p.write limit q i record = (p, q, .error cause) ∧
      ∀ expected actual, cause ≠ .longRecordMismatch expected actual := by
  by_cases absent : q.consumers ≤ i
  · refine ⟨.invalidConsumerIndex p.handle.name i q.consumers, ?_, fun _ _ => Error.noConfusion⟩
    simp only [write, absent, ↓reduceIte]
  · have long : LengthWord.maxLength < record.length := by omega
    refine ⟨.recordTooLarge record.length LengthWord.maxLength, ?_, fun _ _ => Error.noConfusion⟩
    simp only [write, absent, LengthWord.check, long, ↓reduceIte]

theorem start_held (handle : Handle) (session : Session)
    (mapping : List ConsumerMapping) (consumers i : Nat) :
    (Producer.start handle session mapping consumers).held i = none := by
  simp only [held, start, Array.getD_eq_getD_getElem?, Array.getElem?_replicate]
  split
  · rfl
  · rfl

theorem dropOverflow_held (p : Producer) (i : Nat) : p.dropOverflow.held i = none := by
  simp only [held, dropOverflow, Array.getD_eq_getD_getElem?, Array.getElem?_map]
  cases p.overflow[i]? <;> rfl

theorem dropOverflow_sized (sized : p.Sized q) : p.dropOverflow.Sized q := by
  rw [Sized, dropOverflow, Array.size_map]
  exact sized

/-- Giving a queue up fails and empties every slot that is neither at the end of its data nor
done. -/
theorem reset_slot (p : Producer) (inside : i < q.consumers) :
    ((p.reset q).2.lane i).slot = (q.lane i).slot ∧ (q.lane i).slot.status ≠ .active ∨
      ((p.reset q).2.lane i).slot.ring = (q.lane i).slot.ring.discard ∧
        ((p.reset q).2.lane i).slot.status = .error := by
  have woken (failing : Bool) (after : Queue) :
      (if failing then after.wakeProducer else after).lane i = after.lane i := by
    cases failing <;> rfl
  simp only [reset, woken]
  rw [Queue.lane_mapLanes inside]
  cases status : (q.lane i).slot.status with
  | active => exact .inr ⟨rfl, rfl⟩
  | error => exact .inr ⟨rfl, rfl⟩
  | eof => exact .inl ⟨rfl, SlotStatus.noConfusion⟩
  | done => exact .inl ⟨rfl, SlotStatus.noConfusion⟩

theorem reset_consumers (p : Producer) (q : Queue) : (p.reset q).2.consumers = q.consumers := by
  have woken (failing : Bool) (after : Queue) :
      (if failing then after.wakeProducer else after).consumers = after.consumers := by
    cases failing <;> rfl
  simp only [reset, woken, Queue.mapLanes_consumers]

theorem resetNotConnected_slot (inside : i < q.consumers) :
    ((resetNotConnected q).2.lane i).slot = (q.lane i).slot ∨
      ((resetNotConnected q).2.lane i).slot.ring = (q.lane i).slot.ring.discard ∧
        ((resetNotConnected q).2.lane i).slot.status = .done := by
  simp only [resetNotConnected]
  rw [Queue.lane_mapLanes inside]
  split
  · exact .inr ⟨rfl, rfl⟩
  · exact .inl rfl

theorem sweepLane_slot (failed : Bool) (l : Lane) :
    (sweepLane failed l).slot = l.slot ∨
      (sweepLane failed l).slot.ring = l.slot.ring ∧ (sweepLane failed l).slot.status = .error := by
  simp only [sweepLane]
  split
  · split
    · exact .inr ⟨rfl, rfl⟩
    · exact .inl rfl
  · split
    · exact .inl rfl
    · exact .inl rfl

end Producer

end RecordExchange
