import RecordExchange.Proofs.Exchange.Producing
import RecordExchange.Proofs.Queue.Unbinding

set_option autoImplicit false

/-!
Every action keeps an exchange together.

The producer's actions are sequences of steps on single slots, and a reader's action is a step on
its own slot; each leaves the other slots as they were.
-/

namespace RecordExchange

-- comparing buffers must not run through their cells
attribute [local irreducible] Ring.storeFrom Ring.fetchFrom

/-- Whether what a producer holds back still goes out. Once it only waits for its readers, it puts
nothing out any more. -/
def Stand.keeps : Stand → Bool
  | .bound => true
  | .closing _ (.run .flush) => true
  | .closing _ (.woken .flush) => true
  | .closing _ (.timedOut .flush) => true
  | .asleep _ .flush => true
  | _ => false

theorem Stand.keeps_of_bound {stand : Stand} (bound : stand = .bound) : stand.keeps = true := by
  rw [bound]
  rfl

theorem Stand.keeps_of_flush {stand : Stand} {failed : Bool}
    (flushes : stand = .closing failed (.run .flush)) : stand.keeps = true := by
  rw [flushes]
  rfl

theorem absurd_keeps {stand : Stand} {P : Prop} (ends : stand.keeps = false)
    (still : stand.keeps = true) : P := by
  rw [ends] at still
  cases still

theorem Liveness.check_cases {live : Liveness} {cause : Error} (failed : live.check = .error cause) :
    cause = .interrupted ∨ cause = .hostDied live.owner := by
  rw [Liveness.check] at failed
  split at failed
  · cases failed
    exact .inl rfl
  · split at failed
    · cases failed
      exact .inr rfl
    · cases failed

/-- A reason to give up a sleep is no mismatch. -/
theorem Liveness.check_other {live : Liveness} {cause : Error} (failed : live.check = .error cause)
    (expected actual : Nat) : cause ≠ .longRecordMismatch expected actual := by
  rcases check_cases failed with rfl | rfl
  · exact Error.noConfusion
  · exact Error.noConfusion

namespace Exchange

/-- The places of an exchange exist, and each of its `n` slots is in order. -/
structure Sound (n : Nat) (x : Exchange) : Prop where
  has : x.memory.Has x.producer.handle
  size : x.queue.consumers = n
  sized : x.producer.Sized x.queue
  indexed : ∀ i, (x.ports i).consumer.index = i
  ports : ∀ i, i < x.queue.consumers →
    (x.ports i).Sound x.stand.keeps (x.slot i) (x.held i)

variable {x y : Exchange} {n i : Nat}

/-- A step of the producer that yields `added i` in slot `i`. -/
theorem Sound.produce (sound : x.Sound n) (has : y.memory.Has y.producer.handle)
    (sized : y.producer.Sized y.queue) (consumers : y.queue.consumers = x.queue.consumers)
    (added : Nat → List Record)
    (ports : ∀ i, y.ports i = { x.ports i with accepted := (x.ports i).accepted ++ added i })
    (yields : ∀ i, i < x.queue.consumers →
      Yields x.stand.keeps y.stand.keeps (x.slot i) (x.held i) (y.slot i) (y.held i) (added i)) :
    y.Sound n := by
  refine ⟨has, consumers.trans sound.size, sized, ?_, ?_⟩
  · intro i
    rw [ports]
    exact sound.indexed i
  · intro i inside
    rw [consumers] at inside
    rw [ports]
    exact (sound.ports i inside).yields (yields i inside)

theorem Sound.rearrange (sound : x.Sound n) (has : y.memory.Has y.producer.handle)
    (sized : y.producer.Sized y.queue) (consumers : y.queue.consumers = x.queue.consumers)
    (ports : y.ports = x.ports)
    (yields : ∀ i, i < x.queue.consumers →
      Yields x.stand.keeps y.stand.keeps (x.slot i) (x.held i) (y.slot i) (y.held i) []) :
    y.Sound n := by
  apply sound.produce has sized consumers (fun _ => []) _ yields
  intro i
  rw [ports, List.append_nil]

section Places

variable {p : Producer} {q : Queue}

theorem Sound.withQueue_queue (sound : x.Sound n) (q : Queue) : (x.withQueue q).queue = q :=
  sound.has.queue_setQueue q

theorem Sound.withProducer_queue (sound : x.Sound n) (handle : p.handle = x.producer.handle)
    (q : Queue) : (x.withProducer p q).queue = q := by
  change (x.memory.setQueue x.producer.handle q).queue p.handle = q
  rw [handle]
  exact sound.has.queue_setQueue q

theorem Sound.withProducer_has (sound : x.Sound n) (handle : p.handle = x.producer.handle)
    (q : Queue) : (x.withProducer p q).memory.Has (x.withProducer p q).producer.handle := by
  change (x.memory.setQueue x.producer.handle q).Has p.handle
  rw [handle]
  exact sound.has.setQueue q

/-- A call that leaves a producer and a queue adds no record, if it yields none anywhere. -/
theorem Sound.withProducer (sound : x.Sound n) (handle : p.handle = x.producer.handle)
    (sized : p.Sized q) (consumers : q.consumers = x.queue.consumers) (stand : Stand)
    (yields : ∀ i, i < x.queue.consumers →
      Yields x.stand.keeps stand.keeps (x.slot i) (x.held i) (q.lane i).slot (p.held i) []) :
    ((x.withProducer p q).withStand stand).Sound n := by
  have same : ((x.withProducer p q).withStand stand).queue = q :=
    sound.withProducer_queue handle q
  apply sound.rearrange (y := (x.withProducer p q).withStand stand)
    (sound.withProducer_has handle q)
  · rw [same]
    exact sized
  · rw [same]
    exact consumers
  · rfl
  · intro i inside
    have place : ((x.withProducer p q).withStand stand).slot i = (q.lane i).slot := by
      rw [slot, same]
    rw [place]
    exact yields i inside

end Places

theorem Sound.finish_yields (sound : x.Sound n) (inside : i < x.queue.consumers) :
    Yields true true (x.slot i) (x.held i) (((x.producer.finish x.queue).2.1.lane i).slot)
      ((x.producer.finish x.queue).1.held i) [] := by
  rcases Producer.finish_slot sound.sized inside with ⟨slot, held⟩ | ⟨slot, held⟩
  · exact .alike ⟨congrArg (·.ring) slot, congrArg (·.status) slot⟩ fun _ => ⟨rfl, held⟩
  · rw [slot, held]
    exact Yields.finish (x.producer.outlet x.queue i)

theorem Sound.passed (sound : x.Sound n) {p : Producer} {q : Queue} {result : Except Error Nat}
    (found : x.producer.finish x.queue = (p, q, result)) (stand : Stand)
    (before : x.stand.keeps = true) : ((x.withProducer p q).withStand stand).Sound n := by
  have handle := Producer.finish_handle x.producer x.queue
  have sized := Producer.finish_sized sound.sized
  have consumers := Producer.finish_consumers x.producer x.queue
  have yields (i : Nat) (inside : i < x.queue.consumers) := sound.finish_yields inside
  rw [found] at handle sized consumers yields
  apply sound.withProducer handle sized consumers
  intro i inside
  rw [before]
  exact (yields i inside).weaken stand.keeps

theorem finish_handle {p : Producer} {q : Queue} {result : Except Error Nat}
    (found : x.producer.finish x.queue = (p, q, result)) : p.handle = x.producer.handle := by
  have handle := Producer.finish_handle x.producer x.queue
  rw [found] at handle
  exact handle

theorem Sound.finish (sound : x.Sound n) (bound : x.stand = .bound) : x.finish.1.Sound n := by
  obtain ⟨p, q, result, found⟩ : ∃ p q result, x.producer.finish x.queue = (p, q, result) :=
    ⟨_, _, _, rfl⟩
  have same : x.finish.1 = (x.withProducer p q).withStand x.stand := by
    simp only [Exchange.finish, found]
    rfl
  rw [same]
  exact sound.passed found x.stand (Stand.keeps_of_bound bound)

/-- A pass of draining is a pass over the outlets; they differ in what they answer. -/
theorem drain_fst (x : Exchange) : x.drain.1 = x.finish.1 := by
  obtain ⟨p, q, result, found⟩ : ∃ p q result, x.producer.finish x.queue = (p, q, result) :=
    ⟨_, _, _, rfl⟩
  simp only [Exchange.finish, found]
  cases result with
  | error cause => simp only [Exchange.drain, Producer.drainStep_failed found]
  | ok pending =>
    cases pending with
    | zero => simp only [Exchange.drain, Producer.drainStep_done found]
    | succ pending => simp only [Exchange.drain, Producer.drainStep_pending found]

theorem Sound.drain (sound : x.Sound n) (bound : x.stand = .bound) : x.drain.1.Sound n := by
  rw [drain_fst]
  exact sound.finish bound

theorem Sound.withStand (sound : x.Sound n) (stand : Stand)
    (kept : stand.keeps = true → x.stand.keeps = true) : (x.withStand stand).Sound n := by
  apply sound.rearrange (y := x.withStand stand) sound.has sound.sized rfl rfl
  intro i _
  exact .alike ⟨rfl, rfl⟩ fun still => ⟨kept still, rfl⟩

theorem Sound.waited (sound : x.Sound n) : (x.withQueue (Producer.afterWait x.queue)).Sound n := by
  apply sound.withProducer (p := x.producer) (q := Producer.afterWait x.queue) rfl sound.sized rfl
    x.stand
  intro i _
  exact .alike ⟨rfl, rfl⟩ fun still => ⟨still, rfl⟩

theorem Sound.reset (sound : x.Sound n) : x.reset.1.Sound n := by
  refine sound.withProducer (p := x.producer.dropOverflow) (q := (x.producer.reset x.queue).2) rfl
    ?_ ?_ x.stand ?_
  · rw [Producer.Sized, Producer.reset_consumers]
    exact Producer.dropOverflow_sized sound.sized
  · exact Producer.reset_consumers ..
  · intro i inside
    rw [Producer.dropOverflow_held]
    rcases x.producer.reset_slot inside with ⟨same, closed⟩ | ⟨ring, failed⟩
    · rw [same]
      exact .dropped closed ⟨rfl, rfl⟩
    · exact .cleared ring (Slot.not_isOpen_of_error failed)

theorem Sound.unbind (sound : x.Sound n) (bound : x.stand = .bound) (failed : Bool) :
    (x.unbind failed).Sound n := by
  cases failed with
  | false => exact sound.withStand _ fun _ => Stand.keeps_of_bound bound
  | true =>
    apply sound.rearrange (y := x.unbind true) sound.has
      (Producer.dropOverflow_sized sound.sized) rfl rfl
    intro i _
    exact .alike ⟨rfl, rfl⟩ (absurd_keeps rfl)

theorem Sound.release (sound : x.Sound n) {p : Producer} {q : Queue}
    (handle : p.handle = x.producer.handle) (sized : p.Sized q)
    (consumers : q.consumers = x.queue.consumers) (stand : Stand)
    (yields : ∀ i, i < x.queue.consumers →
      Yields x.stand.keeps stand.keeps (x.slot i) (x.held i) (q.lane i).slot (p.held i) []) :
    ({ x with
        memory := (x.memory.setQueue x.producer.handle q).dropReference x.producer.handle
        producer := p
        stand } : Exchange).Sound n := by
  obtain ⟨y, same⟩ : ∃ y : Exchange, y = { x with
      memory := (x.memory.setQueue x.producer.handle q).dropReference x.producer.handle
      producer := p
      stand } := ⟨_, rfl⟩
  have put := sound.has.setQueue q
  have slots : y.queue.entry.slots = q.entry.slots := by
    rw [same]
    change (((x.memory.setQueue x.producer.handle q).dropReference x.producer.handle).queue
      p.handle).entry.slots = _
    rw [handle, put.dropReference_slots, sound.has.queue_setQueue]
  have size : y.queue.consumers = q.consumers := congrArg Array.size slots
  rw [← same]
  apply sound.rearrange (y := y)
  · rw [same]
    change Segment.Has _ p.handle
    rw [handle]
    exact put.dropReference
  · rw [Producer.Sized, size, same]
    exact sized
  · rw [size]
    exact consumers
  · rw [same]
  · intro i inside
    have place : y.slot i = (q.lane i).slot := congrArg (·.getD i default) slots
    have after := yields i inside
    rw [← place] at after
    rw [same]
    rw [same] at after
    exact after

theorem Sound.giveUp (sound : x.Sound n) (cause : Error) : (x.giveUp cause).1.Sound n := by
  refine sound.release (p := x.producer.dropOverflow)
    (q := (x.queue.mapLanes fun l =>
      if l.slot.status = .active then (l.withStatus .error).wake else l).onProducerLatch
        Latch.disown) rfl ?_ ?_ .gone ?_
  · rw [Producer.Sized, Queue.onProducerLatch_consumers, Queue.mapLanes_consumers]
    exact Producer.dropOverflow_sized sound.sized
  · rw [Queue.onProducerLatch_consumers, Queue.mapLanes_consumers]
  · intro i inside
    rw [Queue.onProducerLatch_lane, Queue.lane_mapLanes inside]
    split
    · exact .closed rfl (Slot.not_isOpen_of_error rfl)
    · exact .alike ⟨rfl, rfl⟩ (absurd_keeps rfl)

theorem Sound.fail (sound : x.Sound n) (failed : Bool) (cause : Error) :
    ({ x with
        memory := (x.producer.closeFailed x.memory cause).2.1
        producer := (x.producer.closeFailed x.memory cause).1
        stand := afterClosing failed (x.producer.closeFailed x.memory cause).2.2 } :
      Exchange).Sound n := by
  have stopped := sound.giveUp cause
  simp only [Exchange.giveUp, Producer.closeFailed] at stopped
  exact stopped

-- from here on a failed unbinding is one thing, whatever it comes to
attribute [local irreducible] Producer.closeFailed

theorem Sound.closing (sound : x.Sound n) {q : Queue} (consumers : q.consumers = x.queue.consumers)
    (stand : Stand)
    (yields : ∀ i, i < x.queue.consumers →
      Yields x.stand.keeps stand.keeps (x.slot i) (x.held i) (q.lane i).slot (x.held i) []) :
    ((x.withQueue q).withStand stand).Sound n := by
  apply sound.withProducer (p := x.producer) (q := q) rfl _ consumers stand yields
  rw [Producer.Sized, consumers]
  exact sound.sized

theorem close_places (x : Exchange) (failed : Bool) (live : Liveness) (point : ClosePoint) :
    (x.close failed live point).1 =
      { x with
        memory := (x.producer.closeStep x.memory failed live point).2.1
        producer := (x.producer.closeStep x.memory failed live point).1
        stand := afterClosing failed (x.producer.closeStep x.memory failed live point).2.2 } := rfl

/-- A pass that moves what is held back, and what comes of it. -/
theorem Sound.close_flush (sound : x.Sound n) {failed : Bool}
    (stands : x.stand = .closing failed (.run .flush)) (live : Liveness) :
    (x.close failed live (.run .flush)).1.Sound n := by
  have keeps := Stand.keeps_of_flush stands
  obtain ⟨p, q, result, found⟩ : ∃ p q result, x.producer.finish x.queue = (p, q, result) :=
    ⟨_, _, _, rfl⟩
  have handle := finish_handle found
  have kept (stand : Stand) := sound.passed found stand keeps
  rw [close_places]
  cases result with
  | error cause =>
    rw [Producer.closeStep_flush_failed found, handle]
    exact (kept x.stand).fail failed cause
  | ok pending =>
    cases pending with
    | zero =>
      rw [Producer.closeStep_flush_done found, handle]
      exact kept (.closing failed (.run .sweep))
    | succ pending =>
      rw [Producer.closeStep_flush_pending found, handle]
      exact kept (.asleep failed .flush)

/-- A look at the slots, each of which is failed, woken, or left alone. -/
theorem Sound.close_sweep (sound : x.Sound n) (failed : Bool) (live : Liveness) :
    (x.close failed live (.run .sweep)).1.Sound n := by
  have swept (stand : Stand) (ends : stand.keeps = false) (i : Nat)
      (inside : i < x.queue.consumers) :
      Yields x.stand.keeps stand.keeps (x.slot i) (x.held i)
        ((x.queue.mapLanes (Producer.sweepLane failed)).lane i).slot (x.held i) [] := by
    rw [Queue.lane_mapLanes inside]
    rcases Producer.sweepLane_slot failed (x.queue.lane i) with same | ⟨ring, status⟩
    · rw [same]
      exact .alike ⟨rfl, rfl⟩ (absurd_keeps ends)
    · exact .closed ring (Slot.not_isOpen_of_error status)
  rw [close_places]
  by_cases awaited : (!failed && x.queue.lanes.any Producer.isAwaited) = true
  · rw [Producer.closeStep_sweep_waits awaited]
    refine sound.closing
      (q := (x.queue.mapLanes (Producer.sweepLane failed)).onProducerLatch Latch.reset)
      ?_ (.asleep failed .sweep) ?_
    · rw [Queue.onProducerLatch_consumers, Queue.mapLanes_consumers]
    · intro i inside
      rw [Queue.onProducerLatch_lane]
      exact swept _ rfl i inside
  · rw [Producer.closeStep_sweep_done awaited]
    exact sound.closing (Queue.mapLanes_consumers ..) (.closing failed .settle) (swept _ rfl)

/-- After a wait that nobody ended, slots nobody reads from are closed. -/
theorem Sound.close_timedOut (sound : x.Sound n) (q : Queue) (stand : Stand)
    (same : ∀ i, q.lane i = x.queue.lane i) (consumers : q.consumers = x.queue.consumers)
    (kept : stand.keeps = true → x.stand.keeps = true) :
    ((x.withQueue (Producer.resetNotConnected q).2).withStand stand).Sound n := by
  apply sound.closing
  · exact (Queue.mapLanes_consumers ..).trans consumers
  · intro i inside
    rw [← consumers] at inside
    have place : x.slot i = (q.lane i).slot := by rw [slot, same]
    rw [place]
    rcases Producer.resetNotConnected_slot inside with alike | ⟨ring, done⟩
    · rw [alike]
      exact .alike ⟨rfl, rfl⟩ fun still => ⟨kept still, rfl⟩
    · exact .cleared ring (Slot.not_isOpen_of_done done)

/-- A producer that has nobody to wait for lets go of the queue. -/
theorem Sound.close_settle (sound : x.Sound n) (failed : Bool) (live : Liveness) :
    (x.close failed live .settle).1.Sound n := by
  rw [close_places]
  cases checked : live.check with
  | error cause =>
    rw [Producer.closeStep_settle_failed checked]
    exact sound.fail failed cause
  | ok alive =>
    by_cases running : x.queue.lanes.any Producer.isRunning = true
    · rw [Producer.closeStep_settle_running checked running]
      exact sound.withStand (.closing failed (.run .sweep)) (absurd_keeps rfl)
    · rw [Producer.closeStep_settle_over checked running]
      refine sound.release (p := x.producer) (q := x.queue.onProducerLatch Latch.disown) rfl
        sound.sized rfl .gone ?_
      intro i _
      exact .alike ⟨rfl, rfl⟩ (absurd_keeps rfl)

theorem Sound.close (sound : x.Sound n) {failed : Bool} {point : ClosePoint}
    (stands : x.stand = .closing failed point) (live : Liveness) :
    (x.close failed live point).1.Sound n := by
  cases point with
  | run pass =>
    cases pass with
    | flush => exact sound.close_flush stands live
    | sweep => exact sound.close_sweep failed live
  | woken pass =>
    cases pass with
    | flush =>
      exact sound.closing (q := Producer.afterWait x.queue) rfl _ fun i _ =>
        .alike ⟨rfl, rfl⟩ fun _ => ⟨by rw [stands]; rfl, rfl⟩
    | sweep => exact sound.withStand _ (absurd_keeps rfl)
  | timedOut pass =>
    cases pass with
    | flush =>
      exact sound.close_timedOut (Producer.afterWait x.queue) _ (fun _ => rfl) rfl
        fun _ => by rw [stands]; rfl
    | sweep => exact sound.close_timedOut x.queue _ (fun _ => rfl) rfl (absurd_keeps rfl)
  | settle => exact sound.close_settle failed live

theorem withPort_self (x : Exchange) (i : Nat) : x.withPort i (x.ports i) = x := by
  have same : (fun j => if j = i then x.ports i else x.ports j) = x.ports := by
    funext j
    split
    · rename_i here
      rw [here]
    · rfl
  rw [withPort, same]

@[simp] theorem withPort_ports (x : Exchange) (i j : Nat) (port : Port) :
    (x.withPort i port).ports j = if j = i then port else x.ports j := rfl

theorem Sound.putOutlet (sound : x.Sound n) (inside : i < x.queue.consumers) (o : Outlet)
    (added : List Record)
    (yields : Yields x.stand.keeps x.stand.keeps (x.slot i) (x.held i) o.lane.slot o.held added) :
    ((x.withProducer (x.producer.setOutlet x.queue i o).1
      (x.producer.setOutlet x.queue i o).2).withPort i
        { x.ports i with accepted := (x.ports i).accepted ++ added }).Sound n := by
  have put := sound.withProducer_queue (p := (x.producer.setOutlet x.queue i o).1) rfl
    (x.producer.setOutlet x.queue i o).2
  obtain ⟨y, same⟩ : ∃ y, y = (x.withProducer (x.producer.setOutlet x.queue i o).1
    (x.producer.setOutlet x.queue i o).2).withPort i
      { x.ports i with accepted := (x.ports i).accepted ++ added } := ⟨_, rfl⟩
  have queue : y.queue = (x.producer.setOutlet x.queue i o).2 := by
    rw [same]
    exact put
  rw [← same]
  refine sound.produce (y := y) ?_ ?_ ?_ (fun j => if j = i then added else []) ?_ ?_
  · rw [same]
    exact sound.withProducer_has (p := (x.producer.setOutlet x.queue i o).1) rfl _
  · rw [queue, same]
    exact Producer.setOutlet_sized sound.sized i o
  · rw [queue]
    exact Queue.setLane_consumers ..
  · intro j
    rw [same, withPort_ports]
    split
    · rename_i here
      rw [here]
    · rw [List.append_nil]
      rfl
  · intro j there
    have stand : y.stand = x.stand := by rw [same]; rfl
    have held : y.held j = (x.producer.setOutlet x.queue i o).1.held j := by rw [same]; rfl
    rw [stand, held, slot, slot, queue]
    split
    · rename_i here
      subst here
      rw [Producer.setOutlet_held_self sound.sized inside]
      change Yields _ _ _ _ ((x.queue.setLane j o.lane).lane j).slot _ _
      rw [Queue.lane_setLane_self inside]
      exact yields
    · rename_i elsewhere
      rw [Producer.setOutlet_held_other _ _ (Ne.symm elsewhere)]
      change Yields _ _ _ _ ((x.queue.setLane i o.lane).lane j).slot _ _
      rw [Queue.lane_setLane_other _ (Ne.symm elsewhere)]
      exact .alike ⟨rfl, rfl⟩ fun still => ⟨still, rfl⟩

theorem Sound.putOutlet_same (sound : x.Sound n) (inside : i < x.queue.consumers) (o : Outlet)
    (yields : Yields x.stand.keeps x.stand.keeps (x.slot i) (x.held i) o.lane.slot o.held []) :
    (x.withProducer (x.producer.setOutlet x.queue i o).1
      (x.producer.setOutlet x.queue i o).2).Sound n := by
  have put := sound.putOutlet inside o [] yields
  have same : ({ x.ports i with accepted := (x.ports i).accepted ++ [] } : Port) = x.ports i := by
    rw [List.append_nil]
  rw [same] at put
  exact withPort_self (x.withProducer _ _) i ▸ put

theorem Sound.write (sound : x.Sound n) (bound : x.stand = .bound) (i : Nat) (record : Record) :
    (x.write i record).1.Sound n := by
  have keeps := Stand.keeps_of_bound bound
  by_cases fits : i < x.queue.consumers ∧ record.length ≤ LengthWord.maxLength
  · obtain ⟨inside, short⟩ := fits
    have written := Producer.write_of_fits (p := x.producer) x.limit inside short
    simp only [Exchange.write, written]
    cases result : ((x.producer.outlet x.queue i).write x.limit record).2 with
    | error cause =>
      apply sound.putOutlet_same inside
      rw [keeps]
      exact Yields.write_failed short result
    | ok done =>
      dsimp only
      split
      · rename_i active
        apply sound.putOutlet inside
        rw [keeps]
        exact Yields.write (o := x.producer.outlet x.queue i) active x.limit short
      · rename_i closed
        apply sound.putOutlet_same inside
        rw [keeps]
        exact Yields.write_closed (o := x.producer.outlet x.queue i) closed x.limit record
  · obtain ⟨cause, written, _⟩ := x.producer.write_refused x.limit x.queue fits
    simp only [Exchange.write, written]
    apply sound.withProducer (p := x.producer) (q := x.queue) rfl sound.sized rfl x.stand
    intro j _
    exact .alike ⟨rfl, rfl⟩ fun still => ⟨still, rfl⟩

/-- What became of one reader, where its slot and the others stay as they are. -/
theorem Sound.withPort (sound : x.Sound n) {port : Port} (index : port.consumer.index = i)
    (own : i < x.queue.consumers → port.Sound x.stand.keeps (x.slot i) (x.held i)) :
    (x.withPort i port).Sound n := by
  refine ⟨sound.has, sound.size, sound.sized, ?_, ?_⟩
  · intro j
    rw [withPort_ports]
    split
    · rename_i here
      rw [here]
      exact index
    · exact sound.indexed j
  · intro j inside
    rw [withPort_ports]
    split
    · rename_i here
      subst here
      exact own inside
    · exact sound.ports j inside

theorem Sound.receive (sound : x.Sound n) {q : Queue} {port : Port}
    (consumers : q.consumers = x.queue.consumers)
    (others : ∀ j, i ≠ j → q.lane j = x.queue.lane j) (index : port.consumer.index = i)
    (own : i < x.queue.consumers → port.Sound x.stand.keeps (q.lane i).slot (x.held i)) :
    ((x.withQueue q).withPort i port).Sound n := by
  have queue : ((x.withQueue q).withPort i port).queue = q := sound.withQueue_queue q
  refine ⟨sound.has.setQueue q, ?_, ?_, ?_, ?_⟩
  · rw [queue]
    exact consumers.trans sound.size
  · rw [Producer.Sized, queue, consumers]
    exact sound.sized
  · intro j
    rw [withPort_ports]
    split
    · rename_i here
      rw [here]
      exact index
    · exact sound.indexed j
  · intro j inside
    rw [queue, consumers] at inside
    rw [withPort_ports, slot, queue]
    split
    · rename_i here
      subst here
      exact own inside
    · rename_i elsewhere
      rw [others j (Ne.symm elsewhere)]
      exact sound.ports j inside

theorem read_places (x : Exchange) (i : Nat) (canWait : Bool) (point : ReadPoint) :
    (x.read i canWait point).1 =
      (x.withQueue ((x.ports i).consumer.readStep canWait point x.queue).1).withPort i
        ((x.ports i).after ((x.ports i).consumer.readStep canWait point x.queue).2.1 point
          ((x.ports i).consumer.readStep canWait point x.queue).2.2) := rfl

/-- A step of a read, seen from the slot. -/
theorem read_advances (x : Exchange) (index : (x.ports i).consumer.index = i)
    (inside : i < x.queue.consumers) (canWait : Bool) {point : ReadPoint} {keeps : Bool}
    {t : Transit} {rest : List Record} (feeds : Feeds keeps (x.slot i) (x.held i) t rest)
    (placed : Placed (x.slot i) t.skip (t.records ++ rest) point) :
    Advances keeps (x.held i) t.skip (t.records ++ rest) (x.slot i) point
      (((x.ports i).consumer.readStep canWait point x.queue).1.lane i).slot
      ((x.ports i).consumer.readStep canWait point x.queue).2.2 := by
  have advances := @Consumer.readStep_advances (x.ports i).consumer x.queue canWait keeps
    (x.held i) t rest
  rw [index] at advances
  exact advances inside feeds point placed

theorem Sound.read (sound : x.Sound n) (inside : i < x.queue.consumers) (canWait : Bool)
    {point : ReadPoint} (stands : (x.ports i).StandsAt point) :
    (x.read i canWait point).1.Sound n := by
  have frame := (x.ports i).consumer.readStep_frame canWait point x.queue
  have index := sound.indexed i
  rw [read_places]
  apply sound.receive frame.consumers
  · intro j other
    exact frame.others j (by rw [index]; exact other)
  · rw [Port.after_consumer, frame.index, index]
  · intro _
    cases met : (x.ports i).mismatched with
    | true =>
      intro matched
      rw [Port.after_mismatched _ _ _ _ met] at matched
      cases matched
    | false =>
      obtain ⟨skip, queue, ⟨t, rest, feeds, rfl, rfl⟩, follows, accounts⟩ :=
        sound.ports i inside met
      have advances := x.read_advances index inside canWait feeds (follows.placed_at stands)
      exact Port.Sound.step stands follows accounts advances _

theorem Sound.abandon (sound : x.Sound n) {point : ReadPoint}
    (sleeping : (x.ports i).reading = some point) {cause : Error}
    (other : ∀ expected actual, cause ≠ .longRecordMismatch expected actual) :
    (x.abandon i point cause).1.Sound n := by
  apply sound.withPort
  · rw [Port.ended_consumer]
    exact sound.indexed i
  · intro inside
    rw [Port.ended_of_other _ point other]
    intro matched
    obtain ⟨skip, queue, awaits, follows, accounts⟩ := sound.ports i inside matched
    exact ⟨skip, queue, awaits, follows.stop (.inr sleeping), accounts⟩

theorem Sound.leave (sound : x.Sound n) : (x.leave i).Sound n := by
  have index := sound.indexed i
  have left : x.leave i = (x.withQueue ((x.ports i).consumer.reset x.queue).1).withPort i
      { x.ports i with consumer := ((x.ports i).consumer.reset x.queue).2 } := rfl
  have frame := (x.ports i).consumer.reset_frame x.queue
  rw [left]
  apply sound.receive frame.1
  · intro j other
    exact frame.2.1 j (by rw [index]; exact other)
  · exact frame.2.2.trans index
  · intro inside
    rcases (x.ports i).consumer.reset_slot (index ▸ inside) with same | ⟨ring, done⟩
    · rw [index] at same
      rw [same]
      exact (sound.ports i inside).still (.alike ⟨rfl, rfl⟩ fun still => ⟨still, rfl⟩) _
    · rw [index] at ring done
      exact (sound.ports i inside).still (.closed ring (Slot.not_isOpen_of_done done)) _

/-- Every action keeps the exchange together. -/
theorem Sound.perform (sound : x.Sound n) (action : Action) :
    (x.perform action).1.Sound n := by
  cases action with
  | write i record =>
    simp only [Exchange.perform]
    split
    · rename_i bound
      exact sound.write bound i record
    · exact sound
  | finish =>
    simp only [Exchange.perform]
    split
    · rename_i bound
      exact sound.finish bound
    · exact sound
  | drain =>
    simp only [Exchange.perform]
    split
    · rename_i bound
      exact sound.drain bound
    · exact sound
  | waited =>
    simp only [Exchange.perform]
    split
    · exact sound.waited
    · exact sound
  | reset =>
    simp only [Exchange.perform]
    split
    · exact sound.reset
    · exact sound
  | unbind failed =>
    simp only [Exchange.perform]
    split
    · rename_i bound
      exact sound.unbind bound failed
    · exact sound
  | close live =>
    simp only [Exchange.perform]
    split
    · rename_i stands
      exact sound.close stands live
    · exact sound
  | wake timely =>
    simp only [Exchange.perform]
    split
    · rename_i failed pass asleep
      apply sound.withStand
      rw [asleep]
      cases pass <;> cases timely <;> exact id
    · exact sound
  | giveUp live =>
    simp only [Exchange.perform]
    split
    · exact sound.giveUp _
    · exact sound
  | read i canWait =>
    simp only [Exchange.perform]
    split
    · rename_i ready
      exact sound.read ready.1 canWait (.inl ⟨ready.2, rfl⟩)
    · exact sound
  | resume i =>
    simp only [Exchange.perform]
    split
    · rename_i point sleeping
      split
      · rename_i inside
        exact sound.read inside true (.inr sleeping)
      · exact sound
    · exact sound
  | abandon i live =>
    simp only [Exchange.perform]
    split
    · rename_i point cause sleeping failed
      exact sound.abandon sleeping (Liveness.check_other failed)
    · exact sound
  | leave i =>
    simp only [Exchange.perform]
    split
    · exact sound.leave
    · exact sound

end Exchange

end RecordExchange
