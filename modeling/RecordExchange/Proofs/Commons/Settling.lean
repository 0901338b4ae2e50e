import RecordExchange.Proofs.Commons.Lifecycle
import RecordExchange.Proofs.Commons.References
import RecordExchange.Proofs.Exchange.Steps

set_option autoImplicit false

/-!
How a producer's hold on its queue ends.

A producer that unbinds goes from pass to pass and may fail at any of them; one that fails abandons
its queue, and one that is dropped unbinds as a failed one. On every way there is exactly one step
that settles the queue, and that step is the last one of the call: one reference less, the queue
gone with the last one, the producer's latch nobody's, nothing held back, and no slot active.
-/

namespace RecordExchange

namespace Segment

variable {s : Segment} {h : Handle}

theorem dropReference_producer (s : Segment) (h : Handle) (b : Nat) :
    ((s.dropReference h).blocks.getD b default).producer = (s.blocks.getD b default).producer :=
  dropReference_block SyncBlock.producer (fun _ => rfl) s h b

/-- The producer's latch is nobody's, and no slot is active; of a producer that `delivered`
everything, all slots are done. -/
structure Settled (t : Segment) (h : Handle) (delivered : Bool) : Prop where
  disowned : (t.queue h).sync.producer.owner = 0
  ended : ∀ i, i < (t.queue h).consumers → (t.lane h i).slot.status ≠ .active
  done : delivered = true → ∀ i, i < (t.queue h).consumers → (t.lane h i).slot.status = .done

theorem Settled.dropReference {delivered : Bool} (settled : s.Settled h delivered) :
    (s.dropReference h).Settled h delivered := by
  have consumers : ((s.dropReference h).queue h).consumers = (s.queue h).consumers :=
    congrArg Array.size (dropReference_slots s h h.entry)
  refine ⟨?_, ?_, ?_⟩
  · have same : ((s.dropReference h).queue h).sync.producer = (s.queue h).sync.producer :=
      dropReference_producer s h h.block
    rw [same]
    exact settled.disowned
  · intro i inside
    rw [consumers] at inside
    rw [dropReference_lane]
    exact settled.ended i inside
  · intro all i inside
    rw [consumers] at inside
    rw [dropReference_lane]
    exact settled.done all i inside

end Segment

namespace Producer

variable {p : Producer} {s : Segment} {failed : Bool} {live : Liveness}

theorem finish_size (p : Producer) (q : Queue) :
    (p.finish q).1.overflow.size = p.overflow.size := by
  have puts (outlets : List Outlet) (p : Producer) (q : Queue) (i : Nat) :
      (p.setOutletsFrom q i outlets).1.overflow.size = p.overflow.size := by
    induction outlets generalizing p q i with
    | nil => rfl
    | cons o rest ih =>
      rw [setOutletsFrom, ih]
      exact Array.size_setIfInBounds
  exact puts _ p q 0

theorem dropOverflow_size (p : Producer) : p.dropOverflow.overflow.size = p.overflow.size :=
  Array.size_map ..

theorem closeStep_size (p : Producer) (s : Segment) (failed : Bool) (live : Liveness)
    (point : ClosePoint) :
    (p.closeStep s failed live point).1.overflow.size = p.overflow.size := by
  match point with
  | .run .flush =>
    have finished := finish_size p (s.queue p.handle)
    cases passed : (p.finish (s.queue p.handle)).2.2 with
    | error cause =>
      rw [closeStep_flush_failed (finish_eq passed)]
      exact (dropOverflow_size _).trans finished
    | ok pending =>
      cases pending with
      | zero =>
        rw [closeStep_flush_done (finish_eq passed)]
        exact finished
      | succ pending =>
        rw [closeStep_flush_pending (finish_eq passed)]
        exact finished
  | .woken .flush => rfl
  | .timedOut .flush => rfl
  | .run .sweep =>
    simp only [closeStep]
    split
    · rfl
    · rfl
  | .woken .sweep => rfl
  | .timedOut .sweep => rfl
  | .settle =>
    simp only [closeStep]
    split
    · exact dropOverflow_size p
    · split
      · rfl
      · rfl

/-- Past the last pass over what is held back, and after a failure, nothing is held back. -/
theorem closeStep_emptied {point : ClosePoint} (sized : p.Sized (s.queue p.handle))
    (emptied : (Stand.closing failed point).keeps = false → ∀ i, p.held i = none)
    (past : (Exchange.afterClosing failed (p.closeStep s failed live point).2.2).keeps = false)
    (i : Nat) : (p.closeStep s failed live point).1.held i = none := by
  match point with
  | .run .flush =>
    cases passed : (p.finish (s.queue p.handle)).2.2 with
    | error cause =>
      rw [closeStep_flush_failed (finish_eq passed)]
      exact dropOverflow_held _ i
    | ok pending =>
      cases pending with
      | zero =>
        rw [closeStep_flush_done (finish_eq passed)]
        exact finish_empties sized passed i
      | succ pending =>
        rw [closeStep_flush_pending (finish_eq passed)] at past
        cases past
  | .woken .flush => cases past
  | .timedOut .flush => cases past
  | .run .sweep =>
    have none := emptied rfl i
    simp only [closeStep]
    split
    · exact none
    · exact none
  | .woken .sweep => exact emptied rfl i
  | .timedOut .sweep => exact emptied rfl i
  | .settle =>
    have none := emptied rfl i
    simp only [closeStep]
    split
    · exact dropOverflow_held p i
    · split
      · exact none
      · exact none

section Slots

variable (serves : s.Serves p.handle)
include serves

/-- A sweep that need not wait leaves no active slot, and only done ones unless the producer has
failed. -/
theorem sweep_ends (past : ¬ (!failed && (s.queue p.handle).lanes.any isAwaited) = true) {i : Nat}
    (inside : i < (s.queue p.handle).consumers) :
    (((s.queue p.handle).mapLanes (sweepLane failed)).lane i).slot.status ≠ .active ∧
      (failed = false →
        (((s.queue p.handle).mapLanes (sweepLane failed)).lane i).slot.status = .done) := by
  rw [serves.wired.lane_mapLanes inside]
  cases failed with
  | true =>
    refine ⟨?_, fun no => absurd no.symm Bool.false_ne_true⟩
    unfold sweepLane
    simp only [↓reduceIte]
    split
    · exact SlotStatus.noConfusion
    · assumption
  | false =>
    have done : ((s.queue p.handle).lane i).slot.status = .done := by
      by_contra other
      apply past
      rw [Bool.not_false, Bool.true_and, any_isAwaited]
      exact ⟨i, inside, other⟩
    have same : sweepLane false ((s.queue p.handle).lane i) = (s.queue p.handle).lane i := by
      simp only [sweepLane, done, ne_eq, not_true_eq_false, Bool.false_eq_true, ↓reduceIte]
    rw [same, done]
    exact ⟨SlotStatus.noConfusion, fun _ => rfl⟩

/-- A sweep that need not wait leaves no consumer at work. -/
theorem sweep_idle (past : ¬ (!failed && (s.queue p.handle).lanes.any isAwaited) = true) :
    ¬ ((s.setQueue p.handle ((s.queue p.handle).mapLanes (sweepLane failed))).queue
      p.handle).lanes.any isRunning = true := by
  rw [serves.has.queue_setQueue, List.any_eq_true]
  rintro ⟨lane, member, running⟩
  obtain ⟨i, inside, rfl⟩ := List.mem_map.mp member
  rw [List.mem_range, Queue.mapLanes_consumers] at inside
  rw [isRunning, Bool.and_eq_true, beq_iff_eq] at running
  exact (sweep_ends serves past inside).1 running.1

theorem abandon_settled : (p.abandon s).2.Settled p.handle false := by
  refine Segment.Settled.dropReference (s := s.setQueue p.handle _) ⟨?_, ?_, nofun⟩
  · rw [serves.has.queue_setQueue]
    rfl
  · intro i inside
    rw [serves.has.queue_setQueue, Queue.onProducerLatch_consumers, Queue.mapLanes_consumers]
      at inside
    unfold Segment.lane
    rw [serves.has.queue_setQueue, Queue.onProducerLatch_lane, serves.wired.lane_mapLanes inside]
    split
    · exact SlotStatus.noConfusion
    · assumption

/-- Only a sweep leads on to the last step, with no active slot left. -/
theorem closeStep_to_settle {point : ClosePoint}
    (last : (p.closeStep s failed live point).2.2 = .goesOn .settle) :
    ∀ i, i < ((p.closeStep s failed live point).2.1.queue p.handle).consumers →
      ((p.closeStep s failed live point).2.1.lane p.handle i).slot.status ≠ .active ∧
        (failed = false →
          ((p.closeStep s failed live point).2.1.lane p.handle i).slot.status = .done) := by
  match point with
  | .run .flush =>
    cases passed : (p.finish (s.queue p.handle)).2.2 with
    | error cause =>
      rw [closeStep_flush_failed (finish_eq passed)] at last
      cases last
    | ok pending =>
      cases pending with
      | zero =>
        rw [closeStep_flush_done (finish_eq passed)] at last
        cases last
      | succ pending =>
        rw [closeStep_flush_pending (finish_eq passed)] at last
        cases last
  | .woken .flush => cases last
  | .timedOut .flush => cases last
  | .run .sweep =>
    by_cases awaited : (!failed && (s.queue p.handle).lanes.any isAwaited) = true
    · rw [closeStep_sweep_waits awaited] at last
      cases last
    · rw [closeStep_sweep_done awaited]
      intro i inside
      rw [serves.has.queue_setQueue, Queue.mapLanes_consumers] at inside
      unfold Segment.lane
      rw [serves.has.queue_setQueue]
      exact sweep_ends serves awaited inside
  | .woken .sweep => cases last
  | .timedOut .sweep => cases last
  | .settle =>
    simp only [closeStep] at last
    split at last
    · cases last
    · split at last
      · cases last
      · cases last

/-- The last step of unbinding settles the queue, whichever it is. -/
theorem closeStep_settled {point : ClosePoint} {result : Except Error Unit}
    (awaited : point = .settle → ∀ i, i < (s.queue p.handle).consumers →
      (s.lane p.handle i).slot.status ≠ .active ∧
        (failed = false → (s.lane p.handle i).slot.status = .done))
    (ended : (p.closeStep s failed live point).2.2 = .ended result) :
    (p.closeStep s failed live point).2.1.Settled p.handle (!failed && result.toBool) := by
  match point with
  | .run .flush =>
    have handle : (p.finish (s.queue p.handle)).1.handle = p.handle := finish_handle ..
    cases passed : (p.finish (s.queue p.handle)).2.2 with
    | error cause =>
      have later := serves.setQueue (finish_outline p (s.queue p.handle))
      have abandoned := abandon_settled (p := (p.finish (s.queue p.handle)).1) (handle.symm ▸ later)
      rw [handle] at abandoned
      rw [closeStep_flush_failed (finish_eq passed)] at ended ⊢
      rw [handle]
      cases ended
      simp only [Except.toBool, Bool.and_false]
      exact abandoned
    | ok pending =>
      cases pending with
      | zero =>
        rw [closeStep_flush_done (finish_eq passed)] at ended
        cases ended
      | succ pending =>
        rw [closeStep_flush_pending (finish_eq passed)] at ended
        cases ended
  | .woken .flush => cases ended
  | .timedOut .flush => cases ended
  | .run .sweep =>
    simp only [closeStep] at ended
    split at ended
    · cases ended
    · cases ended
  | .woken .sweep => cases ended
  | .timedOut .sweep => cases ended
  | .settle =>
    cases checked : live.check with
    | error cause =>
      rw [closeStep_settle_failed checked] at ended ⊢
      cases ended
      simp only [Except.toBool, Bool.and_false]
      exact abandon_settled serves
    | ok _ =>
      by_cases running : (s.queue p.handle).lanes.any isRunning = true
      · rw [closeStep_settle_running checked running] at ended
        cases ended
      · rw [closeStep_settle_over checked running] at ended ⊢
        have past := awaited rfl
        refine Segment.Settled.dropReference (s := s.setQueue p.handle _) ⟨?_, ?_, ?_⟩
        · rw [serves.has.queue_setQueue]
          rfl
        · intro i inside
          rw [serves.has.queue_setQueue] at inside
          unfold Segment.lane
          rw [serves.has.queue_setQueue]
          exact (past i inside).1
        · intro all i inside
          rw [Bool.and_eq_true, Bool.not_eq_true'] at all
          rw [serves.has.queue_setQueue] at inside
          unfold Segment.lane
          rw [serves.has.queue_setQueue]
          exact (past i inside).2 all.1

end Slots

end Producer

namespace ProducerSeat

variable {seat : ProducerSeat} {s t : Segment} {move : ProducerMove}

/-- The call of the producer that a move brings to its end, if it does: whether it was begun as a
failed one, and its result. -/
def ends (seat : ProducerSeat) (s : Segment) : ProducerMove → Option (Bool × Except Error Unit)
  | .close live =>
    match seat.stand with
    | .closing failed point =>
      match (seat.producer.closeStep s failed live point).2.2 with
      | .ended result => some (failed, result)
      | _ => none
    | _ => none
  | .giveUp live =>
    match seat.stand, live.check with
    | .asleep failed _, .error cause => some (failed, .error cause)
    | _, _ => none
  | _ => none

/-- A producer has let go of its queue exactly if it had before or its call comes to an end. -/
theorem step_isOpen (seat : ProducerSeat) (s : Segment) (move : ProducerMove) :
    (seat.step s move).1.isOpen = false ↔
      seat.isOpen = false ∨ (seat.ends s move).isSome = true := by
  have still : seat.isOpen = false ↔ seat.isOpen = false ∨ (none : Option Unit).isSome = true := by
    simp only [Option.isSome_none, Bool.false_eq_true, or_false]
  obtain ⟨p, limit, stand, turn⟩ := seat
  cases move with
  | call c => cases stand <;> exact still
  | unbind failed => cases stand <;> exact still
  | wake timely => cases stand <;> exact still
  | close live =>
    cases stand with
    | closing failed point =>
      simp only [step, ends]
      cases (p.closeStep s failed live point).2.2 with
      | goesOn next => exact still
      | waits pass => exact still
      | ended result => exact ⟨fun _ => .inr rfl, fun _ => rfl⟩
    | _ => exact still
  | giveUp live =>
    cases stand with
    | asleep failed pass =>
      simp only [step, ends]
      cases live.check with
      | ok _ => exact still
      | error cause => exact ⟨fun _ => .inr rfl, fun _ => rfl⟩
    | _ => exact still

theorem ends_closed (closed : seat.isOpen = false) : seat.ends s move = none := by
  obtain ⟨p, limit, stand, turn⟩ := seat
  cases stand with
  | gone => cases move <;> rfl
  | _ => cases closed

/-- A producer has a place for what it holds back for each slot. Past its last pass it holds nothing
back, and before its last step no slot is active, and all are done unless it failed. -/
structure Tidy (seat : ProducerSeat) (s : Segment) : Prop where
  sized : seat.producer.Sized (s.queue seat.producer.handle)
  emptied : seat.stand.keeps = false → ∀ i, seat.producer.held i = none
  awaited : ∀ failed, seat.stand = .closing failed .settle →
    ∀ i, i < (s.queue seat.producer.handle).consumers →
      (s.lane seat.producer.handle i).slot.status ≠ .active ∧
        (failed = false → (s.lane seat.producer.handle i).slot.status = .done)

theorem Tidy.livesOn (tidy : seat.Tidy s) (lives : s.LivesOn t seat.producer.handle.entry) :
    seat.Tidy t := by
  refine ⟨tidy.sized.trans lives.size.symm, tidy.emptied, ?_⟩
  intro failed stands i inside
  obtain ⟨ended, done⟩ := tidy.awaited failed stands i (Nat.lt_of_lt_of_eq inside lives.size)
  have proceeds := lives.slots i
  exact ⟨fun active => ended (proceeds.active_of_active active),
    fun unfailed => proceeds.done_of_done (done unfailed)⟩

theorem call_size (p : Producer) (limit : Nat) (q : Queue) (c : ProducerCall) :
    (call p limit q c).1.overflow.size = p.overflow.size := by
  cases c with
  | write i record =>
    simp only [call, Producer.write]
    split
    · rfl
    · split
      · rfl
      · exact Array.size_setIfInBounds
  | finish => exact Producer.finish_size p q
  | drain =>
    change (p.drainStep q).1.overflow.size = _
    rw [Producer.drainStep_producer]
    exact Producer.finish_size p q
  | waited => rfl
  | canPause => rfl
  | reset => exact Producer.dropOverflow_size p
  | resetNotConnected => rfl

theorem Tidy.step (tidy : seat.Tidy s) (serves : s.Serves seat.producer.handle)
    (move : ProducerMove) : (seat.step s move).1.Tidy (seat.step s move).2 := by
  have lives := (seat.step_changes Lane.proceeds_obeys serves move).livesOn
    seat.producer.handle.entry
  obtain ⟨p, limit, stand, turn⟩ := seat
  obtain ⟨sized, emptied, awaited⟩ := tidy
  have tidy : (ProducerSeat.mk p limit stand turn).Tidy s := ⟨sized, emptied, awaited⟩
  cases move with
  | call c =>
    cases stand with
    | bound =>
      have handle : (call p limit (s.queue p.handle) c).1.handle = p.handle :=
        congrArg Prod.fst (call_keeps p limit (s.queue p.handle) c).1
      refine ⟨?_, fun keeps => (Bool.noConfusion keeps), fun _ stands => by cases stands⟩
      have size := (call_size p limit (s.queue p.handle) c).trans (sized.trans lives.size.symm)
      simp only [ProducerSeat.step] at size ⊢
      unfold Producer.Sized Segment.queue at *
      rw [handle]
      exact size
    | _ => exact tidy
  | unbind failed =>
    cases stand with
    | bound =>
      cases failed with
      | true =>
        exact ⟨(Producer.dropOverflow_size p).trans sized,
          fun _ i => Producer.dropOverflow_held p i, fun _ stands => by cases stands⟩
      | false => exact ⟨sized, fun keeps => (Bool.noConfusion keeps), fun _ stands => by cases stands⟩
    | _ => exact tidy
  | wake timely =>
    cases stand with
    | asleep failed pass =>
      refine ⟨sized, fun past => emptied ?_, ?_⟩
      · cases timely <;> cases pass <;> first | rfl | cases past
      · intro failed' stands
        cases timely with
        | true => cases stands
        | false => cases stands
    | _ => exact tidy
  | close live =>
    cases stand with
    | closing failed point =>
      have hold := (Producer.closeStep_cases p s failed live point).1
      have handle : (p.closeStep s failed live point).1.handle = p.handle := congrArg Prod.fst hold
      simp only [ProducerSeat.step] at lives ⊢
      refine ⟨?_, fun past => Producer.closeStep_emptied sized emptied past, ?_⟩
      · have size := (Producer.closeStep_size p s failed live point).trans
          (sized.trans lives.size.symm)
        unfold Producer.Sized Segment.queue at *
        rw [handle]
        exact size
      · intro failed' stands i inside
        cases next : (p.closeStep s failed live point).2.2 with
        | goesOn point' =>
          rw [next] at stands
          cases stands
          rw [handle] at inside ⊢
          exact Producer.closeStep_to_settle serves next i inside
        | waits pass =>
          rw [next] at stands
          cases stands
        | ended result =>
          rw [next] at stands
          cases stands
    | _ => exact tidy
  | giveUp live =>
    cases stand with
    | asleep failed pass =>
      simp only [ProducerSeat.step] at lives ⊢
      cases checked : live.check with
      | ok _ => exact tidy
      | error cause =>
        rw [checked] at lives
        refine ⟨?_, fun _ i => Producer.dropOverflow_held p i, fun _ stands => by cases stands⟩
        exact (Producer.dropOverflow_size p).trans (sized.trans lives.size.symm)
    | _ => exact tidy

/-- The move with which a producer's call comes to its end leaves nothing held back and the queue
settled. -/
theorem Tidy.ends (tidy : seat.Tidy s) (serves : s.Serves seat.producer.handle) {failed : Bool}
    {result : Except Error Unit} (ends : seat.ends s move = some (failed, result)) :
    (∀ i, (seat.step s move).1.producer.held i = none) ∧
      (seat.step s move).2.Settled seat.producer.handle (!failed && result.toBool) := by
  have after := tidy.step serves move
  have gone : (seat.step s move).1.isOpen = false := by
    rw [step_isOpen, ends]
    exact .inr rfl
  refine ⟨after.emptied ?_, ?_⟩
  · unfold isOpen at gone
    split at gone
    · rename_i stands
      rw [stands]
      rfl
    · cases gone
  · obtain ⟨p, limit, stand, turn⟩ := seat
    obtain ⟨-, -, awaited⟩ := tidy
    cases move with
    | close live =>
      cases stand with
      | closing failed' point =>
        simp only [ProducerSeat.ends] at ends
        cases last : (p.closeStep s failed' live point).2.2 with
        | ended result' =>
          rw [last] at ends
          cases ends
          exact Producer.closeStep_settled serves
            (fun settles => awaited _ (congrArg (Stand.closing _) settles)) last
        | _ =>
          rw [last] at ends
          cases ends
      | _ => cases ends
    | giveUp live =>
      cases stand with
      | asleep failed' pass =>
        simp only [ProducerSeat.ends, ProducerSeat.step] at ends ⊢
        cases checked : live.check with
        | ok _ =>
          rw [checked] at ends
          cases ends
        | error cause =>
          rw [checked] at ends
          cases ends
          simp only [Except.toBool, Bool.and_false]
          exact Producer.abandon_settled serves
      | _ => cases ends
    | _ => cases ends

end ProducerSeat

end RecordExchange
