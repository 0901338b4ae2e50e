import RecordExchange.Proofs.Commons.Settling
import RecordExchange.Proofs.Queue.Deserted

set_option autoImplicit false

/-!
Unbinding while nobody else does anything.

A producer with no readers left waits twice for each pass at most: a signal that is there already
ends the first wait and is cleared with it, so the next one lasts until the time has passed. Then
the producer gives up on all slots that nobody reads from, which leaves them done, and done slots
hold nothing up.
-/

namespace RecordExchange

/-- Where unbinding goes on after a wait while nobody else does anything: a signal that is there
ends the wait, unless there is no time to wait at all. -/
def ClosePass.resumes (pass : ClosePass) (timeoutMs : Nat) (latch : Latch) : ClosePoint :=
  if timeoutMs ≠ 0 ∧ latch.isSet = true then .woken pass else .timedOut pass

namespace Segment

variable {s : Segment} {h : Handle} {q : Queue}

/-- Nobody reads from the queue that a handle holds on to. -/
structure Deserted (s : Segment) (h : Handle) : Prop where
  serves : s.Serves h
  slots : ∀ i, i < (s.queue h).consumers → ((s.queue h).lane i).slot.Deserted

/-- All slots of the queue that a handle holds on to are done. -/
structure Finished (s : Segment) (h : Handle) : Prop where
  serves : s.Serves h
  slots : ∀ i, i < (s.queue h).consumers → ((s.queue h).lane i).slot.status = .done

theorem Deserted.setQueue (deserted : s.Deserted h) (same : q.outline = (s.queue h).outline)
    (works : (s.queue h).Lanewise Lane.AsksNothing q) : (s.setQueue h q).Deserted h := by
  have consumers : q.consumers = (s.queue h).consumers := congrArg Outline.slots same
  refine ⟨deserted.serves.setQueue same, fun i inside => ?_⟩
  rw [deserted.serves.has.queue_setQueue] at inside ⊢
  rw [consumers] at inside
  exact (works i inside).deserted (deserted.slots i inside)

theorem Serves.finished (serves : s.Serves h) (same : q.outline = (s.queue h).outline)
    (done : ∀ i, i < (s.queue h).consumers → (q.lane i).slot.status = .done) :
    (s.setQueue h q).Finished h := by
  have consumers : q.consumers = (s.queue h).consumers := congrArg Outline.slots same
  refine ⟨serves.setQueue same, fun i inside => ?_⟩
  rw [serves.has.queue_setQueue] at inside ⊢
  rw [consumers] at inside
  exact done i inside

/-- Giving up on those that have not attached finishes a queue that nobody reads from. -/
theorem Deserted.finished (deserted : s.Deserted h) (same : q.outline = (s.queue h).outline)
    (lanes : ∀ i, q.lane i = (s.queue h).lane i) :
    (s.setQueue h (Producer.resetNotConnected q).2).Finished h := by
  have consumers : q.consumers = (s.queue h).consumers := congrArg Outline.slots same
  refine deserted.serves.finished ((Producer.resetNotConnected_outline q).trans same)
    fun i inside => ?_
  apply Producer.resetNotConnected_deserted
  · rw [consumers]
    exact inside
  · rw [lanes]
    exact deserted.slots i inside

end Segment

namespace Producer

/-- From some point on, so many moves of an unbinding producer end its call with success while
nobody else does anything. -/
inductive ClosesAlone (timeoutMs : Nat) (live : Liveness) :
    Producer → Segment → ClosePoint → Nat → Producer → Segment → Prop
  | ends {p s point after t} (step : p.closeStep s false live point = (after, t, .ended (.ok ()))) :
      ClosesAlone timeoutMs live p s point 1 after t
  | goesOn {p s point d u next n after t}
      (step : p.closeStep s false live point = (d, u, .goesOn next))
      (rest : ClosesAlone timeoutMs live d u next n after t) :
      ClosesAlone timeoutMs live p s point (n + 1) after t
  | waits {p s point d u pass n after t}
      (step : p.closeStep s false live point = (d, u, .waits pass))
      (rest : ClosesAlone timeoutMs live d u
        (pass.resumes timeoutMs (u.queue d.handle).sync.producer) n after t) :
      ClosesAlone timeoutMs live p s point (n + 2) after t

/-- Unbinding comes to its end within so many moves, and leaves the queue settled. -/
def ClosesWithin (timeoutMs : Nat) (live : Liveness) (p : Producer) (s : Segment)
    (point : ClosePoint) (bound : Nat) : Prop :=
  ∃ n after t, n ≤ bound ∧ ClosesAlone timeoutMs live p s point n after t ∧
    t.Settled p.handle true

section Bounds

variable {timeoutMs : Nat} {live : Liveness} {p d : Producer} {s u : Segment}
  {point next : ClosePoint} {pass : ClosePass} {bound : Nat}

theorem ClosesWithin.mono {more : Nat} (closes : ClosesWithin timeoutMs live p s point bound)
    (larger : bound ≤ more) : ClosesWithin timeoutMs live p s point more := by
  obtain ⟨n, after, t, within, alone, settled⟩ := closes
  exact ⟨n, after, t, Nat.le_trans within larger, alone, settled⟩

theorem ClosesWithin.ends {after : Producer} {t : Segment}
    (step : p.closeStep s false live point = (after, t, .ended (.ok ())))
    (settled : t.Settled p.handle true) : ClosesWithin timeoutMs live p s point 1 :=
  ⟨1, after, t, Nat.le_refl 1, .ends step, settled⟩

theorem ClosesWithin.goesOn (step : p.closeStep s false live point = (d, u, .goesOn next))
    (handle : d.handle = p.handle) (rest : ClosesWithin timeoutMs live d u next bound) :
    ClosesWithin timeoutMs live p s point (bound + 1) := by
  obtain ⟨n, after, t, within, alone, settled⟩ := rest
  exact ⟨n + 1, after, t, Nat.succ_le_succ within, .goesOn step alone, handle ▸ settled⟩

theorem ClosesWithin.waits (step : p.closeStep s false live point = (d, u, .waits pass))
    (handle : d.handle = p.handle)
    (rest : ClosesWithin timeoutMs live d u
      (pass.resumes timeoutMs (u.queue d.handle).sync.producer) bound) :
    ClosesWithin timeoutMs live p s point (bound + 2) := by
  obtain ⟨n, after, t, within, alone, settled⟩ := rest
  exact ⟨n + 2, after, t, by omega, .waits step alone, handle ▸ settled⟩

end Bounds

section Alone

variable {live : Liveness} (timeoutMs : Nat) (checked : live.check = .ok ()) {p : Producer}
  {s : Segment}
include checked

theorem closes_finished (finished : s.Finished p.handle) :
    ClosesWithin timeoutMs live p s (.run .sweep) 2 := by
  have past : ¬ (!false && (s.queue p.handle).lanes.any isAwaited) = true := by
    rw [Bool.not_false, Bool.true_and, any_isAwaited]
    rintro ⟨i, inside, undone⟩
    exact undone (finished.slots i inside)
  obtain ⟨u, made⟩ : ∃ u, u = s.setQueue p.handle ((s.queue p.handle).mapLanes (sweepLane false)) :=
    ⟨_, rfl⟩
  have sweep : p.closeStep s false live (.run .sweep) = (p, u, .goesOn .settle) := by
    rw [closeStep_sweep_done past, made]
  have awaited := closeStep_to_settle finished.serves (congrArg (·.2.2) sweep)
  rw [sweep] at awaited
  have serves : u.Serves p.handle := by
    rw [made]
    exact finished.serves.setQueue (Queue.mapLanes_outline ..)
  have idle : ¬ (u.queue p.handle).lanes.any isRunning = true := by
    rw [made]
    exact sweep_idle finished.serves past
  have ended : (p.closeStep u false live .settle).2.2 = .ended (.ok ()) := by
    rw [closeStep_settle_over checked idle]
  have settled := closeStep_settled serves (fun _ => awaited) ended
  exact .goesOn sweep rfl (.ends (Prod.ext rfl (Prod.ext rfl ended)) settled)

theorem closes_flush_finished (finished : s.Finished p.handle) :
    ClosesWithin timeoutMs live p s (.run .flush) 3 := by
  have passed := p.finish_of_closed (q := s.queue p.handle) fun i inside => by
    rw [finished.slots i inside]
    exact SlotStatus.noConfusion
  have handle : (p.finish (s.queue p.handle)).1.handle = p.handle := finish_handle ..
  refine .goesOn (closeStep_flush_done (finish_eq passed)) handle
    (closes_finished timeoutMs checked ?_)
  rw [handle]
  refine finished.serves.finished (finish_outline p _) fun i inside => ?_
  exact (Lane.asksNothing_obeys.finish finished.serves.wired p i inside).done
    (finished.slots i inside)

variable (deserted : s.Deserted p.handle)
include deserted

theorem closes_timedOut_flush : ClosesWithin timeoutMs live p s (.timedOut .flush) 4 :=
  .goesOn rfl rfl (closes_flush_finished timeoutMs checked
    (deserted.finished (Queue.onProducerLatch_outline _ _) fun _ => rfl))

theorem closes_timedOut_sweep : ClosesWithin timeoutMs live p s (.timedOut .sweep) 3 :=
  .goesOn rfl rfl (closes_finished timeoutMs checked (deserted.finished rfl fun _ => rfl))

/-- A sweep clears the latch, so nothing ends the wait behind it early. -/
theorem closes_sweep : ClosesWithin timeoutMs live p s (.run .sweep) 5 := by
  by_cases awaited : (!false && (s.queue p.handle).lanes.any isAwaited) = true
  · refine .waits (closeStep_sweep_waits awaited) rfl ?_
    have clear : ClosePass.sweep.resumes timeoutMs
        (((s.setQueue p.handle (((s.queue p.handle).mapLanes (sweepLane false)).onProducerLatch
          Latch.reset)).queue p.handle).sync.producer) = .timedOut .sweep := by
      rw [deserted.serves.has.queue_setQueue]
      exact if_neg fun signalled => Bool.false_ne_true signalled.2
    rw [clear]
    refine closes_timedOut_sweep timeoutMs checked (deserted.setQueue ?_ fun i inside => ?_)
    · rw [Queue.onProducerLatch_outline, Queue.mapLanes_outline]
    · exact Lane.asksNothing_obeys.sweep deserted.serves.wired false i inside
  · refine (closes_finished timeoutMs checked ⟨deserted.serves, fun i inside => ?_⟩).mono (by omega)
    by_contra undone
    apply awaited
    rw [Bool.not_false, Bool.true_and, any_isAwaited]
    exact ⟨i, inside, undone⟩

/-- A pass over what is held back, and what follows if something still is. -/
theorem closes_flush_then {bound : Nat} (room : 4 ≤ bound)
    (later : ∀ (d : Producer) (u : Segment), u.Deserted d.handle →
      (u.queue d.handle).sync.producer = (s.queue p.handle).sync.producer →
        ClosesWithin timeoutMs live d u
          (ClosePass.flush.resumes timeoutMs (u.queue d.handle).sync.producer) bound) :
    ClosesWithin timeoutMs live p s (.run .flush) (bound + 2) := by
  obtain ⟨pending, passed⟩ := p.finish_deserted deserted.slots
  have handle : (p.finish (s.queue p.handle)).1.handle = p.handle := finish_handle ..
  have still : (s.setQueue (p.finish (s.queue p.handle)).1.handle
      (p.finish (s.queue p.handle)).2.1).Deserted (p.finish (s.queue p.handle)).1.handle := by
    rw [handle]
    exact deserted.setQueue (finish_outline p _)
      (Lane.asksNothing_obeys.finish deserted.serves.wired p)
  cases pending with
  | zero =>
    have closes := closes_sweep timeoutMs checked still
    exact (ClosesWithin.goesOn (closeStep_flush_done (finish_eq passed)) handle closes).mono
      (by omega)
  | succ pending =>
    refine .waits (closeStep_flush_pending (finish_eq passed)) handle (later _ _ still ?_)
    rw [handle, deserted.serves.has.queue_setQueue]
    exact finish_latch p _

theorem closes_flush_unsignalled
    (clear : ¬ (timeoutMs ≠ 0 ∧ (s.queue p.handle).sync.producer.isSet = true)) :
    ClosesWithin timeoutMs live p s (.run .flush) 6 := by
  refine closes_flush_then timeoutMs checked deserted (Nat.le_refl 4) fun d u still same => ?_
  rw [same, ClosePass.resumes, if_neg clear]
  exact closes_timedOut_flush timeoutMs checked still

theorem closes_woken_flush : ClosesWithin timeoutMs live p s (.woken .flush) 7 := by
  refine .goesOn rfl rfl (closes_flush_unsignalled timeoutMs checked ?_ ?_)
  · exact deserted.setQueue (Queue.onProducerLatch_outline _ _)
      fun i _ => Lane.asksNothing_obeys.refl ((s.queue p.handle).lane i)
  · rw [deserted.serves.has.queue_setQueue]
    exact fun signalled => Bool.false_ne_true signalled.2

/-- However the producer's latch is set and whatever is held back, unbinding from a queue that
nobody reads from comes to its end. -/
theorem closes_flush : ClosesWithin timeoutMs live p s (.run .flush) 9 := by
  refine closes_flush_then timeoutMs checked deserted (by omega) fun d u still same => ?_
  rw [ClosePass.resumes]
  split
  · exact closes_woken_flush timeoutMs checked still
  · exact (closes_timedOut_flush timeoutMs checked still).mono (by omega)

end Alone

end Producer

end RecordExchange
