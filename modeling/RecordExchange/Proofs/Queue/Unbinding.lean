import RecordExchange.Producer.Closing
import RecordExchange.Proofs.Queue.Outlets

set_option autoImplicit false

/-!
One step of draining or of unbinding at a time, by what the step finds.

A pass that reports nothing as held back leaves nothing held back, so a producer that has gone past
its last pass, or has failed, holds nothing back any more.
-/

namespace RecordExchange

namespace Outlet

theorem finish_held (o : Outlet) (empty : o.finish.2 = .ok 0) : o.finish.1.held = none := by
  obtain ⟨lane, held⟩ := o
  cases held with
  | none =>
    simp only [finish]
    split
    · rfl
    · rfl
  | some store =>
    by_cases active : lane.slot.status = .active
    · by_cases half : lane.slot.isHalfFree = true
      · simp only [finish, active, half, ne_eq, not_true_eq_false, ↓reduceIte] at empty ⊢
        cases dumped : (lane.dump store).2.2 with
        | error cause =>
          have moved : dump ⟨lane, some store⟩ store =
              (⟨(lane.dump store).1, some (lane.dump store).2.1⟩, .error cause) := by
            rw [Outlet.dump, show lane.dump store =
              ((lane.dump store).1, (lane.dump store).2.1, .error cause) by rw [← dumped]]
          rw [moved] at empty
          cases empty
        | ok emptied =>
          have moved := dump_held ⟨lane, some store⟩ store dumped
          cases emptied with
          | true =>
            rw [moved]
            rfl
          | false =>
            rw [moved] at empty
            cases empty
      · simp only [finish, active, half, ne_eq, not_true_eq_false, ↓reduceIte,
          Bool.false_eq_true] at empty
        cases empty
    · simp only [finish, active, ne_eq, not_false_eq_true, ↓reduceIte]

theorem finishAll_held (outlets : List Outlet) (empty : (finishAll outlets).2 = .ok 0) :
    ∀ o ∈ (finishAll outlets).1, o.held = none := by
  induction outlets with
  | nil => exact nofun
  | cons first rest ih =>
    cases finished : first.finish.2 with
    | error cause =>
      rw [finishAll, show first.finish = (first.finish.1, .error cause) by rw [← finished]] at empty
      cases empty
    | ok pending =>
      have split : first.finish = (first.finish.1, .ok pending) := by rw [← finished]
      rw [finishAll, split] at empty ⊢
      cases later : (finishAll rest).2 with
      | error cause =>
        simp only [later, Except.map] at empty
        cases empty
      | ok sum =>
        simp only [later, Except.map, Except.ok.injEq] at empty
        have none : pending = 0 := by omega
        have rest' : sum = 0 := by omega
        intro o member
        rcases List.mem_cons.mp member with same | behind
        · rw [same]
          apply finish_held
          rw [finished, none]
        · exact ih (by rw [later, rest']) o behind

end Outlet

namespace Producer

variable {p after : Producer} {q moved : Queue} {s : Segment} {failed : Bool} {live : Liveness}
  {cause : Error} {pending : Nat}

theorem finish_eq {result : Except Error Nat} (passed : (p.finish q).2.2 = result) :
    p.finish q = ((p.finish q).1, (p.finish q).2.1, result) := by
  rw [← passed]

theorem drainStep_failed (passed : p.finish q = (after, moved, .error cause)) :
    p.drainStep q = (after, moved, .ended (.error cause)) := by
  simp only [drainStep, passed]

/-- Draining is over once nothing is held back. -/
theorem drainStep_done (passed : p.finish q = (after, moved, .ok 0)) :
    p.drainStep q = (after, moved, .ended (.ok 0)) := by
  simp only [drainStep, passed]

theorem drainStep_pending (passed : p.finish q = (after, moved, .ok (pending + 1))) :
    p.drainStep q = (after, moved, .waits (pending + 1)) := by
  simp only [drainStep, passed]

theorem finish_empties (sized : p.Sized q) (empty : (p.finish q).2.2 = .ok 0) (i : Nat) :
    (p.finish q).1.held i = none := by
  obtain ⟨finished, same⟩ : ∃ finished, finished = (Outlet.finishAll (p.outlets q)).1 := ⟨_, rfl⟩
  have length : finished.length = q.consumers := by
    rw [same, Outlet.finishAll_length, outlets_length]
  by_cases inside : i < q.consumers
  · have put := setOutletsFrom_held (i := 0) sized finished i (by omega) (by omega)
    rw [Nat.zero_add] at put
    change (p.setOutletsFrom q 0 (Outlet.finishAll (p.outlets q)).1).1.held i = _
    rw [← same, put]
    apply Outlet.finishAll_held _ empty
    rw [← same]
    exact List.getElem_mem _
  · have after := finish_sized sized
    rw [Sized, finish_consumers] at after
    rw [held, Array.getD_eq_getD_getElem?, Array.getElem?_eq_none (by omega), Option.getD_none]

section Flush

theorem closeStep_flush_failed
    (passed : p.finish (s.queue p.handle) = (after, moved, .error cause)) :
    p.closeStep s failed live (.run .flush) =
      after.closeFailed (s.setQueue after.handle moved) cause := by
  simp only [closeStep, passed]

theorem closeStep_flush_done (passed : p.finish (s.queue p.handle) = (after, moved, .ok 0)) :
    p.closeStep s failed live (.run .flush) =
      (after, s.setQueue after.handle moved, .goesOn (.run .sweep)) := by
  simp only [closeStep, passed]

theorem closeStep_flush_pending
    (passed : p.finish (s.queue p.handle) = (after, moved, .ok (pending + 1))) :
    p.closeStep s failed live (.run .flush) =
      (after, s.setQueue after.handle moved, .waits .flush) := by
  simp only [closeStep, passed]

end Flush

section Sweep

theorem any_isAwaited (q : Queue) : q.lanes.any isAwaited = true ↔
    ∃ i, i < q.consumers ∧ (q.lane i).slot.status ≠ .done := by
  rw [List.any_eq_true]
  constructor
  · rintro ⟨lane, member, awaited⟩
    obtain ⟨i, inside, rfl⟩ := List.mem_map.mp member
    exact ⟨i, List.mem_range.mp inside, bne_iff_ne.mp awaited⟩
  · rintro ⟨i, inside, undone⟩
    exact ⟨_, List.mem_map_of_mem (List.mem_range.mpr inside), bne_iff_ne.mpr undone⟩

theorem closeStep_sweep_waits
    (awaited : (!failed && (s.queue p.handle).lanes.any isAwaited) = true) :
    p.closeStep s failed live (.run .sweep) =
      (p, s.setQueue p.handle
        (((s.queue p.handle).mapLanes (sweepLane failed)).onProducerLatch Latch.reset),
        .waits .sweep) := by
  simp only [closeStep, awaited, ↓reduceIte]

theorem closeStep_sweep_done
    (awaited : ¬ (!failed && (s.queue p.handle).lanes.any isAwaited) = true) :
    p.closeStep s failed live (.run .sweep) =
      (p, s.setQueue p.handle ((s.queue p.handle).mapLanes (sweepLane failed)),
        .goesOn .settle) := by
  simp only [closeStep, awaited, ↓reduceIte, Bool.false_eq_true]

end Sweep

section Settle

theorem closeStep_settle_failed (checked : live.check = .error cause) :
    p.closeStep s failed live .settle = p.closeFailed s cause := by
  simp only [closeStep, checked]

theorem closeStep_settle_running (checked : live.check = .ok ())
    (running : (s.queue p.handle).lanes.any isRunning = true) :
    p.closeStep s failed live .settle = (p, s, .goesOn (.run .sweep)) := by
  simp only [closeStep, checked, running, ↓reduceIte]

theorem closeStep_settle_over (checked : live.check = .ok ())
    (alone : ¬ (s.queue p.handle).lanes.any isRunning = true) :
    p.closeStep s failed live .settle =
      (p, (s.setQueue p.handle ((s.queue p.handle).onProducerLatch Latch.disown)).dropReference
        p.handle, .ended (.ok ())) := by
  simp only [closeStep, checked, alone, ↓reduceIte, Bool.false_eq_true]

end Settle

end Producer

end RecordExchange
