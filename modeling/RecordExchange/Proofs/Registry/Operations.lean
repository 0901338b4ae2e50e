import RecordExchange.Producer.Closing
import RecordExchange.Proofs.Queue.Unbinding
import RecordExchange.Proofs.Registry.Tables

set_option autoImplicit false

/-!
The operations that deal with the registry, by what they find there.

Each of them lays out a queue, takes or gives up a reference in one place, or does nothing but work
on the queues that are there.
-/

namespace RecordExchange

namespace Segment

variable {s : Segment} {g : Geometry} {live : Liveness} {session : Session} {name : String}

/-- A look on behalf of a claim that does not stand afterwards leaves no trace; one that does has
laid the queue out, or joined it. -/
theorem tryAcquire_cases (s : Segment) (g : Geometry) (live : Liveness) (session : Session)
    (name : String) (consumers : Nat) :
    (∃ result, result ≠ .ok .held ∧
        s.tryAcquire g live session name consumers = (s, result)) ∨
      (∃ i b, s.find? g.maxQueues name = none ∧ s.freeEntry? g.maxQueues = some i ∧
        s.freeBlock? g.maxQueues = some b ∧
        LengthWord.size < ringLength g.queueSize consumers ∧
        s.tryAcquire g live session name consumers =
          (s.setQueueAt i b
            ⟨(s.queueAt i b).entry.format name consumers (ringLength g.queueSize consumers) b,
              (s.queueAt i b).sync.assign i consumers⟩, .ok .held)) ∨
      ∃ i, s.find? g.maxQueues name = some i ∧
        s.tryAcquire g live session name consumers =
          (s.setQueue (s.handleAt i) (s.queue (s.handleAt i)).addReference, .ok .held) := by
  simp only [tryAcquire]
  split
  · rename_i cause refused
    exact .inl ⟨.error cause, fun same => (nomatch same), rfl⟩
  · cases found : s.find? g.maxQueues name with
    | none =>
      rcases createQueue_cases s g name consumers with
        ⟨cause, failed⟩ | ⟨i, b, place, pool, room, made⟩
      · rw [failed]
        exact .inl ⟨.error cause, fun same => (nomatch same), rfl⟩
      · rw [made]
        exact .inr (.inl ⟨i, b, rfl, place, pool, room, rfl⟩)
    | some i =>
      dsimp only
      split
      · exact .inl ⟨.ok .stale, fun same => (nomatch same), rfl⟩
      · exact .inr (.inr ⟨i, rfl, rfl⟩)

/-- Looking again changes nothing while nobody else acts. -/
theorem acquireFrom_stale {consumers : Nat}
    (looked : s.tryAcquire g live session name consumers = (s, .ok .stale)) (tries retries : Nat) :
    s.acquireFrom g live session name consumers tries retries =
      (s, .error (.raceUnresolved name (tries + retries))) := by
  induction retries generalizing tries with
  | zero => rfl
  | succ retries ih =>
    rw [acquireFrom, looked]
    dsimp only
    rw [ih, Nat.add_assoc, Nat.add_comm 1 retries]

/-- A claim is settled by its first look, unless the queue is another execution's. -/
theorem acquire_eq {consumers : Nat} (accepted : claimFault? g name consumers = none)
    (retryLimit : Nat) :
    s.acquire g live retryLimit session name consumers =
      match s.tryAcquire g live session name consumers with
      | (t, .error cause) => (t, .error cause)
      | (t, .ok .held) => (t, .ok ())
      | (t, .ok .stale) => (t, .error (.raceUnresolved name (max 1 retryLimit))) := by
  obtain ⟨retries, more⟩ : ∃ retries, max 1 retryLimit = retries + 1 :=
    Nat.exists_eq_add_of_le' (Nat.le_max_left ..)
  simp only [acquire, accepted]
  rcases s.tryAcquire_cases g live session name consumers with
    ⟨result, other, looked⟩ | ⟨i, b, -, -, -, -, looked⟩ | ⟨i, -, looked⟩
  · rw [looked]
    match result with
    | .error cause => rw [more, acquireFrom, looked]
    | .ok .held => exact absurd rfl other
    | .ok .stale =>
      dsimp only
      rw [acquireFrom_stale looked, Nat.zero_add]
  · rw [more, acquireFrom, looked]
  · rw [more, acquireFrom, looked]

theorem tryAcquire_error {consumers : Nat} {cause : Error}
    (failed : (s.tryAcquire g live session name consumers).2 = .error cause) :
    live.check = .error cause ∨ (s.createQueue g name consumers).2 = .error cause := by
  simp only [tryAcquire] at failed
  cases checked : live.check with
  | error reason =>
    simp only [checked, Except.error.injEq] at failed
    exact .inl (congrArg Except.error failed)
  | ok _ =>
    right
    simp only [checked] at failed
    cases found : s.find? g.maxQueues name with
    | some i =>
      simp only [found] at failed
      split at failed
      · cases failed
      · cases failed
    | none =>
      simp only [found] at failed
      cases made : (s.createQueue g name consumers).2 with
      | error reason =>
        rw [made] at failed
        exact congrArg Except.error (Except.error.inj failed)
      | ok _ =>
        rw [made] at failed
        cases failed

theorem acquire_error {consumers retryLimit : Nat} {cause : Error}
    (failed : (s.acquire g live retryLimit session name consumers).2 = .error cause) :
    claimFault? g name consumers = some cause ∨ live.check = .error cause ∨
      (s.createQueue g name consumers).2 = .error cause ∨
        ∃ tries, cause = .raceUnresolved name tries := by
  cases fault : claimFault? g name consumers with
  | some reason =>
    simp only [acquire, fault] at failed
    exact .inl (congrArg some (Except.error.inj failed))
  | none =>
    right
    rw [acquire_eq fault] at failed
    cases looked : (s.tryAcquire g live session name consumers).2 with
    | error reason =>
      have reached := tryAcquire_error looked
      rw [← Prod.eta (s.tryAcquire g live session name consumers), looked] at failed
      have same : reason = cause := Except.error.inj failed
      rw [← same]
      exact reached.imp id .inl
    | ok claim =>
      rw [← Prod.eta (s.tryAcquire g live session name consumers), looked] at failed
      cases claim with
      | held => cases failed
      | stale => exact .inr (.inr ⟨_, (Except.error.inj failed).symm⟩)

section Bind

variable {consumerNodes distribution : List NodeId}

/-- Binding fails for a session that gives up, and where no queue has the name. -/
theorem bind_missed (missed : live.check = .ok () → s.find? g.maxQueues name = none)
    (session : Session) (consumerNodes distribution : List NodeId) :
    ∃ cause, s.bind g live session name consumerNodes distribution = (s, .error cause) := by
  cases alive : live.check with
  | error cause => exact ⟨cause, by simp only [bind, alive]⟩
  | ok _ => exact ⟨.notFound name, by simp only [bind, alive, missed alive]⟩

/-- Where a queue has no producer yet, binding takes up that role. -/
theorem bind_vacant {i : Nat} (alive : live.check = .ok ())
    (found : s.find? g.maxQueues name = some i) (free : (s.producerOf i).pid = 0) :
    s.bind g live session name consumerNodes distribution =
      (s.setQueue (s.handleAt i)
        ((s.queue (s.handleAt i)).bindProducer session consumerNodes distribution).1,
        .ok (.producer (Producer.start (s.handleAt i) session
          ((s.queue (s.handleAt i)).bindProducer session consumerNodes distribution).2
          ((s.queue (s.handleAt i)).bindProducer session consumerNodes
            distribution).1.consumers))) := by
  have free : (s.queue (s.handleAt i)).entry.producerPid = 0 := free
  simp only [bind, alive, found, free, ↓reduceIte]

/-- Where a queue has a producer, binding takes up a consumer's role or fails. -/
theorem bind_taken {i : Nat} (alive : live.check = .ok ())
    (found : s.find? g.maxQueues name = some i) (taken : (s.producerOf i).pid ≠ 0) :
    s.bind g live session name consumerNodes distribution =
      (s.setQueue (s.handleAt i) ((s.queue (s.handleAt i)).bindConsumer session name).1,
        ((s.queue (s.handleAt i)).bindConsumer session name).2.map fun j =>
          .consumer ⟨s.handleAt i, session, j, false⟩) := by
  have taken : (s.queue (s.handleAt i)).entry.producerPid ≠ 0 := taken
  simp only [bind, alive, found, taken, ↓reduceIte]
  split
  · rename_i bound
    rw [bound]
    rfl
  · rename_i bound
    rw [bound]
    rfl

/-- Binding looks for the queue, and takes up the producer's role if nobody has it. -/
theorem bind_roles (s : Segment) (g : Geometry) (live : Liveness) (session : Session)
    (name : String) (consumerNodes distribution : List NodeId) :
    (∃ cause, s.bind g live session name consumerNodes distribution = (s, .error cause)) ∨
      (∃ i, live.check = .ok () ∧ s.find? g.maxQueues name = some i ∧ (s.producerOf i).pid = 0 ∧
        s.bind g live session name consumerNodes distribution =
          (s.setQueue (s.handleAt i)
            ((s.queue (s.handleAt i)).bindProducer session consumerNodes distribution).1,
            .ok (.producer (Producer.start (s.handleAt i) session
              ((s.queue (s.handleAt i)).bindProducer session consumerNodes distribution).2
              ((s.queue (s.handleAt i)).bindProducer session consumerNodes
                distribution).1.consumers)))) ∨
      ∃ i, s.find? g.maxQueues name = some i ∧ (s.producerOf i).pid ≠ 0 ∧
        s.bind g live session name consumerNodes distribution =
          (s.setQueue (s.handleAt i) ((s.queue (s.handleAt i)).bindConsumer session name).1,
            ((s.queue (s.handleAt i)).bindConsumer session name).2.map fun j =>
              .consumer ⟨s.handleAt i, session, j, false⟩) := by
  by_cases hits : live.check = .ok () ∧ ∃ i, s.find? g.maxQueues name = some i
  · obtain ⟨alive, i, found⟩ := hits
    by_cases free : (s.producerOf i).pid = 0
    · exact .inr (.inl ⟨i, alive, found, free, bind_vacant alive found free⟩)
    · exact .inr (.inr ⟨i, found, free, bind_taken alive found free⟩)
  · refine .inl (bind_missed (fun alive => ?_) session consumerNodes distribution)
    rw [Option.eq_none_iff_forall_ne_some]
    exact fun i found => hits ⟨alive, i, found⟩

end Bind

/-- Binding fails, with nothing done but work on a queue, or finds the queue and takes up a role in
it; only a producer takes a reference. -/
theorem bind_cases (s : Segment) (g : Geometry) (live : Liveness) (session : Session)
    (name : String) (consumerNodes distribution : List NodeId) :
    (∃ t cause, s.Keeps t ∧
        s.bind g live session name consumerNodes distribution = (t, .error cause)) ∨
      (∃ i q p, s.find? g.maxQueues name = some i ∧
        q.outline =
          { (s.queue (s.handleAt i)).addReference.outline with producer := session } ∧
        p.handle = s.handleAt i ∧ p.session = session ∧
        s.bind g live session name consumerNodes distribution =
          (s.setQueue (s.handleAt i) q, .ok (.producer p))) ∨
      ∃ i t c, s.find? g.maxQueues name = some i ∧ s.Keeps t ∧
        c.handle = s.handleAt i ∧ c.session = session ∧
        s.bind g live session name consumerNodes distribution = (t, .ok (.consumer c)) := by
  rcases s.bind_roles g live session name consumerNodes distribution with
    ⟨cause, failed⟩ | ⟨i, -, found, -, bound⟩ | ⟨i, found, -, bound⟩
  · exact .inl ⟨s, cause, .refl s, failed⟩
  · exact .inr (.inl ⟨i, _, _, found, Queue.bindProducer_outline .., rfl, rfl, bound⟩)
  · have kept : s.Keeps (s.setQueue (s.handleAt i)
        ((s.queue (s.handleAt i)).bindConsumer session name).1) :=
      .setQueue (Queue.bindConsumer_outline ..)
    cases admitted : ((s.queue (s.handleAt i)).bindConsumer session name).2 with
    | error cause =>
      rw [admitted] at bound
      exact .inl ⟨_, cause, kept, bound⟩
    | ok j =>
      rw [admitted] at bound
      exact .inr (.inr ⟨i, _, ⟨s.handleAt i, session, j, false⟩, found, kept, rfl, rfl, bound⟩)

/-- Who gives a claim up gives a reference up, after work on the queue. -/
theorem release_found {i : Nat} (alive : live.check = .ok ())
    (found : s.find? g.maxQueues name = some i) :
    s.release g live session name =
      ((s.setQueue (s.handleAt i) ((s.queue (s.handleAt i)).giveUp session)).dropReference
        (s.handleAt i), .ok ()) := by
  simp only [release, alive, found]
  rfl

/-- A release fails without a trace, finds nothing to give up, or gives a reference up after work
on the queue. -/
theorem release_cases (s : Segment) (g : Geometry) (live : Liveness) (session : Session)
    (name : String) :
    (∃ cause, s.release g live session name = (s, .error cause)) ∨
      (s.find? g.maxQueues name = none ∧ s.release g live session name = (s, .ok ())) ∨
      ∃ i t, s.find? g.maxQueues name = some i ∧ s.Keeps t ∧
        s.release g live session name = (t.dropReference (s.handleAt i), .ok ()) := by
  simp only [release]
  split
  · exact .inl ⟨_, rfl⟩
  · cases found : s.find? g.maxQueues name with
    | none => exact .inr (.inl ⟨rfl, rfl⟩)
    | some i => exact .inr (.inr ⟨i, _, rfl, .setQueue (Queue.giveUp_outline _ session), rfl⟩)

theorem disconnectConsumer_keeps (s : Segment) (g : Geometry) (live : Liveness)
    (session : Session) (name : String) :
    s.Keeps (s.disconnectConsumer g live session name).1 := by
  simp only [disconnectConsumer]
  split
  · exact .refl s
  · split
    · exact .refl s
    · split
      · exact .refl s
      · exact .setQueue (Queue.disconnect_outline ..)

end Segment

namespace Producer

variable {p : Producer} {s : Segment}

def hold (p : Producer) : Handle × Session := (p.handle, p.session)

@[simp] theorem setOutletsFrom_hold (p : Producer) (q : Queue) (i : Nat) (outlets : List Outlet) :
    (p.setOutletsFrom q i outlets).1.hold = p.hold := by
  induction outlets generalizing p q i with
  | nil => rfl
  | cons o rest ih => exact ih ..

@[simp] theorem write_hold (p : Producer) (limit : Nat) (q : Queue) (i : Nat) (record : Record) :
    (p.write limit q i record).1.hold = p.hold := by
  simp only [write]
  split
  · rfl
  · split
    · rfl
    · rfl

@[simp] theorem finish_hold (p : Producer) (q : Queue) : (p.finish q).1.hold = p.hold :=
  setOutletsFrom_hold ..

@[simp] theorem drainStep_hold (p : Producer) (q : Queue) :
    (p.drainStep q).1.hold = p.hold := by
  rw [← finish_hold p q, drainStep]
  split
  · rename_i passed
    rw [passed]
  · rename_i passed
    rw [passed]
  · rename_i passed
    rw [passed]

/-- Abandoning a queue gives up the producer's reference after work on the queue. -/
theorem abandon_drops (p : Producer) (s : Segment) :
    (p.abandon s).1.hold = p.hold ∧
      ∃ t, s.Keeps t ∧ (p.abandon s).2 = t.dropReference p.handle := by
  refine ⟨rfl, s.setQueue p.handle _, .setQueue ?_, rfl⟩
  rw [Queue.onProducerLatch_outline, Queue.mapLanes_outline]

/-- A step of unbinding is work on the queue, and its end gives up the producer's reference. -/
theorem closeStep_cases (p : Producer) (s : Segment) (failed : Bool) (live : Liveness)
    (point : ClosePoint) :
    (p.closeStep s failed live point).1.hold = p.hold ∧
      ((∀ result, (p.closeStep s failed live point).2.2 ≠ .ended result) ∧
          s.Keeps (p.closeStep s failed live point).2.1 ∨
        (∃ result, (p.closeStep s failed live point).2.2 = .ended result) ∧
          ∃ t, s.Keeps t ∧
            (p.closeStep s failed live point).2.1 = t.dropReference p.handle) := by
  have moved (q : Queue) (same : q.outline = (s.queue p.handle).outline) :
      s.Keeps (s.setQueue p.handle q) := .setQueue same
  match point with
  | .run .flush =>
    have hold : (p.finish (s.queue p.handle)).1.hold = p.hold := finish_hold ..
    have handle : (p.finish (s.queue p.handle)).1.handle = p.handle := congrArg Prod.fst hold
    have outline := moved _ (finish_outline p (s.queue p.handle))
    cases passed : (p.finish (s.queue p.handle)).2.2 with
    | error cause =>
      obtain ⟨kept, t, keeps, dropped⟩ := abandon_drops (p.finish (s.queue p.handle)).1
        (s.setQueue p.handle (p.finish (s.queue p.handle)).2.1)
      rw [handle] at dropped
      rw [closeStep_flush_failed (finish_eq passed), handle]
      exact ⟨kept.trans hold, .inr ⟨⟨_, rfl⟩, t, outline.trans keeps, dropped⟩⟩
    | ok pending =>
      cases pending with
      | zero =>
        rw [closeStep_flush_done (finish_eq passed), handle]
        exact ⟨hold, .inl ⟨fun _ => CloseStep.noConfusion, outline⟩⟩
      | succ pending =>
        rw [closeStep_flush_pending (finish_eq passed), handle]
        exact ⟨hold, .inl ⟨fun _ => CloseStep.noConfusion, outline⟩⟩
  | .woken .flush => exact ⟨rfl, .inl ⟨fun _ => CloseStep.noConfusion, moved _ rfl⟩⟩
  | .timedOut .flush =>
    exact ⟨rfl, .inl ⟨fun _ => CloseStep.noConfusion, moved _ (resetNotConnected_outline _)⟩⟩
  | .run .sweep =>
    by_cases awaited : (!failed && (s.queue p.handle).lanes.any isAwaited) = true
    · rw [closeStep_sweep_waits awaited]
      refine ⟨rfl, .inl ⟨fun _ => CloseStep.noConfusion, moved _ ?_⟩⟩
      rw [Queue.onProducerLatch_outline, Queue.mapLanes_outline]
    · rw [closeStep_sweep_done awaited]
      exact ⟨rfl, .inl ⟨fun _ => CloseStep.noConfusion, moved _ (Queue.mapLanes_outline _ _)⟩⟩
  | .woken .sweep => exact ⟨rfl, .inl ⟨fun _ => CloseStep.noConfusion, .refl s⟩⟩
  | .timedOut .sweep =>
    exact ⟨rfl, .inl ⟨fun _ => CloseStep.noConfusion, moved _ (resetNotConnected_outline _)⟩⟩
  | .settle =>
    cases checked : live.check with
    | error cause =>
      rw [closeStep_settle_failed checked]
      exact ⟨rfl, .inr ⟨⟨_, rfl⟩, (abandon_drops p s).2⟩⟩
    | ok _ =>
      by_cases running : (s.queue p.handle).lanes.any isRunning = true
      · rw [closeStep_settle_running checked running]
        exact ⟨rfl, .inl ⟨fun _ => CloseStep.noConfusion, .refl s⟩⟩
      · rw [closeStep_settle_over checked running]
        refine ⟨rfl, .inr ⟨⟨_, rfl⟩, s.setQueue p.handle _, moved _ ?_, rfl⟩⟩
        exact Queue.onProducerLatch_outline ..

end Producer

end RecordExchange
