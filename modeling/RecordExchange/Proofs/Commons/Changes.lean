import RecordExchange.Proofs.Commons.Refinement
import RecordExchange.Proofs.Queue.Lanewise

set_option autoImplicit false

/-!
What a move leaves of the segment, seen from the lanes.

Every move is work on the lanes of one queue, or of none, or it lays a queue out. What all pieces of
work on single lanes obey is therefore obeyed by every slot, whoever moves, until the slot's place
is laid out again.
-/

namespace RecordExchange

namespace Segment

variable {s t u : Segment} {h k : Handle} {q : Queue} {i : Nat} {R : Lane → Lane → Prop}

/-- The lane in a slot of the queue that a handle holds on to. -/
def lane (s : Segment) (h : Handle) (i : Nat) : Lane := (s.queue h).lane i

structure Serves (s : Segment) (h : Handle) : Prop where
  has : s.Has h
  wired : (s.queue h).Wired

theorem Serves.of_outline (serves : s.Serves h) (same : q.outline = (s.queue h).outline) :
    q.Wired := by
  have slots : q.consumers = (s.queue h).consumers := congrArg Outline.slots same
  have latches : q.sync.consumers.size = (s.queue h).sync.consumers.size :=
    congrArg Outline.latches same
  rw [Queue.Wired, slots, latches]
  exact serves.wired

theorem Serves.setQueue (serves : s.Serves h) (same : q.outline = (s.queue h).outline) :
    (s.setQueue h q).Serves h := by
  refine ⟨serves.has.setQueue q, ?_⟩
  rw [serves.has.queue_setQueue]
  exact serves.of_outline same

theorem Built.serves {g : Geometry} (built : s.Built g) (inside : h.Inside g.maxQueues) :
    s.Serves h := by
  have has := built.has inside.1 inside.2
  refine ⟨has, ?_⟩
  have latches : (s.queue h).sync.consumers.size = g.maxConsumers := built.latches _ has.block
  rw [Queue.Wired, latches]
  exact built.slots h.entry

/-- From `s` to `t` no slot changed and no consumer's latch but the lanes of one queue, each as `R`
says. -/
structure Changes (R : Lane → Lane → Prop) (s t : Segment) (h : Handle) : Prop where
  consumers : (t.queue h).consumers = (s.queue h).consumers
  own : ∀ i, i < (s.queue h).consumers → R (s.lane h i) (t.lane h i)
  slots : ∀ e, e ≠ h.entry →
    (t.entries.getD e default).slots = (s.entries.getD e default).slots
  latches : ∀ b, b ≠ h.block →
    (t.blocks.getD b default).consumers = (s.blocks.getD b default).consumers

theorem Changes.refl (reflexive : ∀ l, R l l) (s : Segment) (h : Handle) : Changes R s s h :=
  ⟨rfl, fun _ _ => reflexive _, fun _ _ => rfl, fun _ _ => rfl⟩

theorem Changes.trans (transitive : ∀ {l m n : Lane}, R l m → R m n → R l n)
    (first : Changes R s t h) (second : Changes R t u h) : Changes R s u h := by
  refine ⟨second.consumers.trans first.consumers, ?_, ?_, ?_⟩
  · intro i inside
    exact transitive (first.own i inside) (second.own i (by rw [first.consumers]; exact inside))
  · exact fun e other => (second.slots e other).trans (first.slots e other)
  · exact fun b other => (second.latches b other).trans (first.latches b other)

theorem Changes.setQueue (has : s.Has h) (same : q.consumers = (s.queue h).consumers)
    (own : ∀ i, i < (s.queue h).consumers → R ((s.queue h).lane i) (q.lane i)) :
    Changes R s (s.setQueue h q) h := by
  refine ⟨?_, ?_, ?_, ?_⟩
  · rw [has.queue_setQueue]
    exact same
  · intro i inside
    rw [lane, lane, has.queue_setQueue]
    exact own i inside
  · intro e other
    rw [Segment.setQueue, setQueueAt_entry_other other]
  · intro b other
    rw [Segment.setQueue, setQueueAt_block_other other]

theorem dropReference_slots (s : Segment) (h : Handle) (e : Nat) :
    ((s.dropReference h).entries.getD e default).slots = (s.entries.getD e default).slots :=
  dropReference_entry Entry.slots (fun _ _ => rfl) (fun _ => rfl) s h e

theorem dropReference_latches (s : Segment) (h : Handle) (b : Nat) :
    ((s.dropReference h).blocks.getD b default).consumers =
      (s.blocks.getD b default).consumers :=
  dropReference_block SyncBlock.consumers (fun _ => rfl) s h b

theorem dropReference_lane (s : Segment) (k h : Handle) (i : Nat) :
    (s.dropReference k).lane h i = s.lane h i := by
  simp only [lane, queue, queueAt, Queue.lane, dropReference_slots, dropReference_latches]

theorem Changes.dropReference (changes : Changes R s t h) (k : Handle) :
    Changes R s (t.dropReference k) h := by
  refine ⟨?_, ?_, ?_, ?_⟩
  · rw [← changes.consumers]
    exact congrArg Array.size (dropReference_slots t k h.entry)
  · intro i inside
    rw [dropReference_lane]
    exact changes.own i inside
  · exact fun e other => (dropReference_slots t k e).trans (changes.slots e other)
  · exact fun b other => (dropReference_latches t k b).trans (changes.latches b other)

end Segment

namespace Producer

variable {R : Lane → Lane → Prop} {s : Segment}

theorem Obeys.abandon (obeys : Obeys R) (p : Producer) (serves : s.Serves p.handle) :
    s.Changes R (p.abandon s).2 p.handle := by
  refine Segment.Changes.dropReference (t := s.setQueue p.handle _) ?_ p.handle
  refine .setQueue serves.has ?_ ?_
  · rw [Queue.onProducerLatch_consumers, Queue.mapLanes_consumers]
  · intro i inside
    rw [Queue.onProducerLatch_lane]
    exact obeys.sweep serves.wired true i inside

/-- Every step of unbinding is work on the lanes of the queue alone. -/
theorem Obeys.closeStep (obeys : Obeys R) (p : Producer) (serves : s.Serves p.handle)
    (failed : Bool) (live : Liveness) (point : ClosePoint) :
    s.Changes R (p.closeStep s failed live point).2.1 p.handle := by
  have still : s.Changes R s p.handle := .refl obeys.refl s p.handle
  have put (q : Queue) (same : q.consumers = (s.queue p.handle).consumers)
      (own : (s.queue p.handle).Lanewise R q) :
      s.Changes R (s.setQueue p.handle q) p.handle := .setQueue serves.has same own
  match point with
  | .run .flush =>
    have handle : (p.finish (s.queue p.handle)).1.handle = p.handle := finish_handle ..
    have finished := put _ (finish_consumers p _) (obeys.finish serves.wired p)
    cases passed : (p.finish (s.queue p.handle)).2.2 with
    | error cause =>
      have later := serves.setQueue (finish_outline p (s.queue p.handle))
      have abandoned := obeys.abandon (p.finish (s.queue p.handle)).1 (handle.symm ▸ later)
      rw [handle] at abandoned
      rw [closeStep_flush_failed (finish_eq passed), handle]
      exact finished.trans obeys.trans abandoned
    | ok pending =>
      cases pending with
      | zero =>
        rw [closeStep_flush_done (finish_eq passed), handle]
        exact finished
      | succ pending =>
        rw [closeStep_flush_pending (finish_eq passed), handle]
        exact finished
  | .woken .flush => exact put _ rfl fun _ _ => obeys.refl _
  | .timedOut .flush =>
    exact put _ (Queue.mapLanes_consumers ..)
      (obeys.resetNotConnected (q := afterWait (s.queue p.handle)) serves.wired)
  | .run .sweep =>
    by_cases awaited : (!failed && (s.queue p.handle).lanes.any isAwaited) = true
    · rw [closeStep_sweep_waits awaited]
      refine put _ ?_ fun i inside => ?_
      · rw [Queue.onProducerLatch_consumers, Queue.mapLanes_consumers]
      · rw [Queue.onProducerLatch_lane]
        exact obeys.sweep serves.wired failed i inside
    · rw [closeStep_sweep_done awaited]
      exact put _ (Queue.mapLanes_consumers ..) (obeys.sweep serves.wired failed)
  | .woken .sweep => exact still
  | .timedOut .sweep =>
    exact put _ (Queue.mapLanes_consumers ..) (obeys.resetNotConnected serves.wired)
  | .settle =>
    cases checked : live.check with
    | error cause =>
      rw [closeStep_settle_failed checked]
      exact obeys.abandon p serves
    | ok _ =>
      by_cases running : (s.queue p.handle).lanes.any isRunning = true
      · rw [closeStep_settle_running checked running]
        exact still
      · rw [closeStep_settle_over checked running]
        exact (put ((s.queue p.handle).onProducerLatch Latch.disown) rfl
          fun _ _ => obeys.refl _).dropReference p.handle

end Producer

namespace ProducerSeat

theorem call_lanewise {R : Lane → Lane → Prop} (obeys : Producer.Obeys R) (p : Producer)
    (limit : Nat) {q : Queue} (wired : q.Wired) (c : ProducerCall) :
    (call p limit q c).2.consumers = q.consumers ∧ q.Lanewise R (call p limit q c).2 := by
  have consumers : (call p limit q c).2.consumers = q.consumers :=
    congrArg Outline.slots (call_keeps p limit q c).2
  refine ⟨consumers, ?_⟩
  cases c with
  | write i record => exact obeys.write wired p limit i record
  | finish => exact obeys.finish wired p
  | drain =>
    change q.Lanewise R (p.drainStep q).2.1
    rw [Producer.drainStep_queue]
    exact obeys.finish wired p
  | waited => exact fun _ _ => obeys.refl _
  | canPause => exact obeys.canPause q
  | reset => exact obeys.reset wired p
  | resetNotConnected => exact obeys.resetNotConnected wired

/-- Whatever a producer does is work on the lanes of its queue alone. -/
theorem step_changes {R : Lane → Lane → Prop} (obeys : Producer.Obeys R) (seat : ProducerSeat)
    {s : Segment} (serves : s.Serves seat.producer.handle) (move : ProducerMove) :
    s.Changes R (seat.step s move).2 seat.producer.handle := by
  have still : s.Changes R s seat.producer.handle := .refl obeys.refl s _
  obtain ⟨p, limit, stand, turn⟩ := seat
  cases move with
  | call c =>
    cases stand with
    | bound =>
      obtain ⟨consumers, own⟩ := call_lanewise obeys p limit serves.wired c
      exact .setQueue serves.has consumers own
    | _ => exact still
  | unbind failed =>
    cases stand with
    | bound => exact still
    | _ => exact still
  | close live =>
    cases stand with
    | closing failed point => exact obeys.closeStep p serves failed live point
    | _ => exact still
  | wake timely =>
    cases stand with
    | asleep failed pass => exact still
    | _ => exact still
  | giveUp live =>
    cases stand with
    | asleep failed pass =>
      simp only [step]
      cases live.check with
      | ok _ => exact still
      | error cause => exact obeys.abandon p serves
    | _ => exact still

end ProducerSeat

/-- What a consumer does is work on the lanes of its queue. -/
theorem ConsumerSeat.step_lanewise {R : Lane → Lane → Prop} (obey : Queue.ReadersObey R)
    (seat : ConsumerSeat) {q : Queue} (wired : q.Wired) (move : ConsumerMove) :
    q.Lanewise R (seat.step q move).2 := by
  have still : q.Lanewise R q := fun _ _ => obey.refl _
  obtain ⟨c, reading, isOpen, turn⟩ := seat
  cases isOpen with
  | false => exact still
  | true =>
    cases move with
    | read canWait =>
      cases reading with
      | none =>
        simp only [step, read, ↓reduceIte]
        exact obey.reads wired c canWait .row
      | some point => exact still
    | resume =>
      cases reading with
      | none => exact still
      | some point =>
        simp only [step, read, ↓reduceIte]
        exact obey.reads wired c true point
    | abandon live =>
      cases reading with
      | none => exact still
      | some point =>
        simp only [step]
        cases live.check with
        | ok _ => exact still
        | error cause => exact still
    | leave =>
      cases reading with
      | none =>
        simp only [step, ↓reduceIte]
        exact obey.leaves wired c
      | some point => exact still
    | drop =>
      cases reading with
      | none =>
        simp only [step, ↓reduceIte]
        exact obey.drop wired c
      | some point => exact still

namespace Commons

variable {x : Commons} {R : Lane → Lane → Prop}

theorem produce_none {k : Nat} (nobody : x.producers[k]? = none) (move : ProducerMove) :
    x.produce k move = x := by
  simp only [produce, nobody]

theorem consume_none {k : Nat} (nobody : x.consumers[k]? = none) (move : ConsumerMove) :
    x.consume k move = x := by
  simp only [consume, nobody]

theorem produce_eq {k : Nat} {seat : ProducerSeat} (here : x.producers[k]? = some seat)
    (move : ProducerMove) :
    x.produce k move =
      { x with
          memory := (seat.step x.memory move).2
          producers := x.producers.set k (seat.step x.memory move).1 } := by
  simp only [produce, here]

theorem produce_seat {k : Nat} {seat : ProducerSeat} (here : x.producers[k]? = some seat)
    (move : ProducerMove) :
    (x.produce k move).producers[k]? = some (seat.step x.memory move).1 := by
  have inside := (List.getElem?_eq_some_iff.mp here).1
  rw [produce_eq here]
  exact List.getElem?_set_self inside

/-- A step of unbinding, as the move of a producer that stands before it. -/
theorem produce_close {k limit turn : Nat} {p d : Producer} {failed : Bool} {point : ClosePoint}
    {live : Liveness} {t : Segment} {step : CloseStep}
    (here : x.producers[k]? = some ⟨p, limit, .closing failed point, turn⟩)
    (stepped : p.closeStep x.memory failed live point = (d, t, step)) :
    (x.produce k (.close live)).memory = t ∧
      (x.produce k (.close live)).producers[k]? =
        some ⟨d, limit, Exchange.afterClosing failed step, turn⟩ := by
  have seat : (ProducerSeat.mk p limit (.closing failed point) turn).step x.memory (.close live) =
      (⟨d, limit, Exchange.afterClosing failed step, turn⟩, t) := by
    simp only [ProducerSeat.step, stepped]
  have there := produce_seat here (.close live)
  rw [seat] at there
  refine ⟨?_, there⟩
  rw [produce_eq here, seat]

/-- What becomes of the memory does not depend on who keeps the books. -/
theorem bind_memory (x : Commons) (live : Liveness) (session : Session) (name : String)
    (consumerNodes distribution : List NodeId) (limit : Nat) :
    (x.bind live session name consumerNodes distribution limit).memory =
      (x.memory.bind x.geometry live session name consumerNodes distribution).1 := by
  unfold bind
  split
  · rename_i bound
    rw [bound]
  · rename_i bound
    rw [bound]
  · rename_i bound
    rw [bound]

theorem release_memory (x : Commons) (live : Liveness) (session : Session) (name : String) :
    (x.release live session name).memory =
      (x.memory.release x.geometry live session name).1 := by
  unfold release
  split
  · rename_i released
    rw [released]
  · rename_i released
    rw [released]

section Moves

variable (founded : x.Founded)
include founded

theorem serves_found {i : Nat} {name : String}
    (found : x.memory.find? x.geometry.maxQueues name = some i) :
    x.memory.Serves (x.memory.handleAt i) :=
  founded.built.serves (named_inside founded (Segment.find?_some found).2)

theorem serves_producer {seat : ProducerSeat} (member : seat ∈ x.producers) :
    x.memory.Serves seat.producer.handle :=
  founded.built.serves (founded.sound.producers _ (List.mem_map_of_mem member))

theorem serves_consumer {seat : ConsumerSeat} (member : seat ∈ x.consumers) :
    x.memory.Serves seat.consumer.handle :=
  founded.built.serves (founded.sound.consumers _ (List.mem_map_of_mem member))

theorem bind_changes (reflexive : ∀ l, R l l)
    (takesUp : ∀ (q : Queue) session consumerNodes nodes,
      q.Lanewise R (q.bindProducer session consumerNodes nodes).1)
    (attaches : ∀ (q : Queue) session name, q.Lanewise R (q.bindConsumer session name).1)
    (live : Liveness) (session : Session) (name : String)
    (consumerNodes distribution : List NodeId) (limit : Nat) :
    ∃ h, x.memory.Changes R
      (x.bind live session name consumerNodes distribution limit).memory h := by
  rw [bind_memory]
  rcases x.memory.bind_roles x.geometry live session name consumerNodes distribution with
    ⟨cause, failed⟩ | ⟨i, -, found, -, bound⟩ | ⟨i, found, -, bound⟩
  · rw [failed]
    exact ⟨default, .refl reflexive ..⟩
  · have outline := Queue.bindProducer_outline (x.memory.queue (x.memory.handleAt i)) session
      consumerNodes distribution
    rw [bound]
    exact ⟨_, .setQueue (serves_found founded found).has (congrArg Outline.slots outline)
      (takesUp _ session consumerNodes distribution)⟩
  · have outline := Queue.bindConsumer_outline (x.memory.queue (x.memory.handleAt i)) session name
    rw [bound]
    exact ⟨_, .setQueue (serves_found founded found).has (congrArg Outline.slots outline)
      (attaches _ session name)⟩

theorem release_changes (reflexive : ∀ l, R l l)
    (releases : ∀ {q : Queue}, q.Wired → ∀ session, q.Lanewise R (q.releaseConsumer session))
    (live : Liveness) (session : Session) (name : String) :
    ∃ h, x.memory.Changes R (x.release live session name).memory h := by
  have still : ∃ h, x.memory.Changes R x.memory h := ⟨default, .refl reflexive ..⟩
  rw [release_memory]
  simp only [Segment.release]
  split
  · exact still
  · cases found : x.memory.find? x.geometry.maxQueues name with
    | none => exact still
    | some i =>
      obtain ⟨has, wired⟩ := serves_found founded found
      refine ⟨x.memory.handleAt i, Segment.Changes.dropReference (.setQueue has ?_ ?_) _⟩
      · split
        · rfl
        · exact congrArg Outline.slots (Queue.releaseConsumer_outline ..)
      · split
        · exact fun _ _ => reflexive _
        · exact releases wired session

theorem disconnect_changes (reflexive : ∀ l, R l l)
    (disconnects : ∀ {q : Queue}, q.Wired → ∀ session, q.Lanewise R (q.disconnect session))
    (live : Liveness) (session : Session) (name : String) :
    ∃ h, x.memory.Changes R (x.memory.disconnectConsumer x.geometry live session name).1 h := by
  have still : ∃ h, x.memory.Changes R x.memory h := ⟨default, .refl reflexive ..⟩
  simp only [Segment.disconnectConsumer]
  split
  · exact still
  · cases found : x.memory.find? x.geometry.maxQueues name with
    | none => exact still
    | some i =>
      obtain ⟨has, wired⟩ := serves_found founded found
      dsimp only
      split
      · exact still
      · exact ⟨_, .setQueue has (congrArg Outline.slots (Queue.disconnect_outline ..))
          (disconnects wired session)⟩

/-- A claim leaves the lanes as they are, or lays a queue out in a free place. -/
theorem acquire_changes (reflexive : ∀ l, R l l) (live : Liveness) (session : Session)
    (name : String) (consumers : Nat) :
    (∃ h, x.memory.Changes R (x.acquire live session name consumers).memory h) ∧
        (x.acquire live session name consumers).laidOut = x.laidOut ∨
      ∃ e b, x.memory.freeEntry? x.geometry.maxQueues = some e ∧
        x.memory.freeBlock? x.geometry.maxQueues = some b ∧
        LengthWord.size < ringLength x.geometry.queueSize consumers ∧
        (x.acquire live session name consumers).laidOut =
          Function.update x.laidOut e (name :: x.laidOut e) ∧
        (x.acquire live session name consumers).memory = x.memory.setQueueAt e b
          ⟨(x.memory.queueAt e b).entry.format name consumers
              (ringLength x.geometry.queueSize consumers) b,
            (x.memory.queueAt e b).sync.assign e consumers⟩ := by
  rcases x.acquire_cases live session name consumers with
    same | ⟨e, b, -, missing, place, pool, room, made⟩ | ⟨e, found, made⟩
  · rw [same]
    exact .inl ⟨⟨default, .refl reflexive ..⟩, rfl⟩
  · rw [made]
    exact .inr ⟨e, b, place, pool, room, rfl, rfl⟩
  · rw [made]
    exact .inl ⟨⟨x.memory.handleAt e,
      .setQueue (serves_found founded found).has rfl fun _ _ => reflexive _⟩, rfl⟩

theorem produce_changes (obeys : Producer.Obeys R) {k : Nat} {seat : ProducerSeat}
    (here : x.producers[k]? = some seat) (move : ProducerMove) :
    x.memory.Changes R (x.produce k move).memory seat.producer.handle := by
  have serves := serves_producer founded (List.mem_of_getElem? here)
  simp only [produce, here]
  exact seat.step_changes obeys serves move

theorem consume_changes (obey : Queue.ReadersObey R) {k : Nat} {seat : ConsumerSeat}
    (here : x.consumers[k]? = some seat) (move : ConsumerMove) :
    x.memory.Changes R (x.consume k move).memory seat.consumer.handle := by
  obtain ⟨has, wired⟩ := serves_consumer founded (List.mem_of_getElem? here)
  have outline := (seat.step_cases (x.memory.queue seat.consumer.handle) move).1
  simp only [consume, here]
  exact .setQueue has (congrArg Outline.slots outline) (seat.step_lanewise obey wired move)

end Moves

end Commons

end RecordExchange
