import RecordExchange.Proofs.Commons.Claiming

set_option autoImplicit false

/-!
Calls on the registry that fail.

A claim, a release, a report of a reader's end and a look for diagnostics leave the memory as it was
if they fail, a claim however often it looked. So does a session that is refused a role, but for the
one that finds its slot failed or done before it could attach: it closes the slot, and tells the
producer.
-/

namespace RecordExchange

namespace Segment

variable {s t : Segment} {g : Geometry} {live : Liveness} {session : Session} {name : String}
  {i k : Nat} {cause : Error}

/-- The segment with one slot of the queue in a place done, and the queue's producer signalled. -/
def closeSlot (s : Segment) (i k : Nat) : Segment :=
  let e := s.entries.getD i default
  let b := s.blocks.getD e.block default
  { s with
    entries := s.entries.setIfInBounds i
      { e with slots := e.slots.setIfInBounds k { e.slots.getD k default with status := .done } }
    blocks := s.blocks.setIfInBounds e.block
      { b with producer := { b.producer with isSet := true } } }

theorem setQueue_closes (s : Segment) (i k : Nat) :
    s.setQueue (s.handleAt i) (((s.queue (s.handleAt i)).setLane k
      (((s.queue (s.handleAt i)).lane k).withStatus .done)).wakeProducer) = s.closeSlot i k := by
  simp only [closeSlot, setQueue, setQueueAt, queue, queueAt, Queue.wakeProducer,
    Queue.onProducerLatch, Queue.setLane, Queue.lane, Lane.withStatus, setIfInBounds_getD]
  rfl

/-- Why a session gets no role in a queue, and what is there when it is told so. -/
inductive Refuses (s : Segment) (g : Geometry) (live : Liveness) (session : Session)
    (name : String) : Segment → Error → Prop
  | stopped (cause : Error) (checked : live.check = .error cause) :
      Refuses s g live session name s cause
  | absent (nowhere : s.find? g.maxQueues name = none) :
      Refuses s g live session name s (.notFound name)
  | outsider (i : Nat) (found : s.find? g.maxQueues name = some i)
      (foreign : ∀ j, j < (s.entries.getD i default).slots.size →
        (s.slotAt i j).node ≠ session.node) :
      Refuses s g live session name s (.notAConsumer name session.node)
  | occupied (i k : Nat) (found : s.find? g.maxQueues name = some i)
      (taken : (s.slotAt i k).pid ≠ 0) :
      Refuses s g live session name s (.alreadyBound name k (s.slotAt i k).pid)
  | closed (i k : Nat) (found : s.find? g.maxQueues name = some i)
      (inside : k < (s.entries.getD i default).slots.size)
      (own : (s.slotAt i k).node = session.node)
      (first : ∀ j, j < k → (s.slotAt i j).node ≠ session.node)
      (free : (s.slotAt i k).pid = 0) (shut : ¬ (s.slotAt i k).IsOpen) :
      Refuses s g live session name (s.closeSlot i k)
        (.producerFailed name k (s.slotAt i k).status)

theorem bind_refuses {consumerNodes distribution : List NodeId}
    (refused : s.bind g live session name consumerNodes distribution = (t, .error cause)) :
    s.Refuses g live session name t cause := by
  cases alive : live.check with
  | error reason =>
    simp only [bind, alive, Prod.mk.injEq, Except.error.injEq] at refused
    obtain ⟨rfl, rfl⟩ := refused
    exact .stopped _ alive
  | ok _ =>
    cases found : s.find? g.maxQueues name with
    | none =>
      simp only [bind, alive, found, Prod.mk.injEq, Except.error.injEq] at refused
      obtain ⟨rfl, rfl⟩ := refused
      exact .absent found
    | some i =>
      by_cases free : (s.producerOf i).pid = 0
      · rw [bind_vacant alive found free] at refused
        cases congrArg Prod.snd refused
      · rw [bind_taken alive found free] at refused
        obtain ⟨rfl, answer⟩ := Prod.mk.inj refused
        cases (s.queue (s.handleAt i)).bindConsumer_admits session name with
        | refuses reason made why =>
          rw [made] at answer ⊢
          obtain rfl := Except.error.inj answer
          rw [setQueue_queue]
          rcases why with ⟨none, rfl⟩ | ⟨k, -, taken, rfl⟩
          · exact .outsider i found (Queue.slotOf?_eq_none.mp none)
          · exact .occupied i k found taken
        | closes k inside shut reason made mine free why =>
          rw [made] at answer ⊢
          obtain rfl := Except.error.inj answer
          obtain ⟨-, own, first⟩ := Queue.slotOf?_eq_some.mp mine
          rw [setQueue_closes, why]
          exact .closed i k found inside own first free shut
        | attaches k inside free opened made =>
          rw [made] at answer
          cases answer

/-- A release that fails was stopped before it touched anything. -/
theorem release_refuses (refused : s.release g live session name = (t, .error cause)) :
    t = s ∧ live.check = .error cause := by
  cases alive : live.check with
  | error reason =>
    simp only [release, alive, Prod.mk.injEq, Except.error.injEq] at refused
    obtain ⟨rfl, rfl⟩ := refused
    exact ⟨rfl, rfl⟩
  | ok _ =>
    cases found : s.find? g.maxQueues name with
    | none =>
      simp only [release, alive, found] at refused
      cases congrArg Prod.snd refused
    | some i =>
      rw [release_found alive found] at refused
      cases congrArg Prod.snd refused

theorem disconnectConsumer_refuses
    (refused : s.disconnectConsumer g live session name = (t, .error cause)) :
    t = s ∧ live.check = .error cause := by
  cases alive : live.check with
  | error reason =>
    simp only [disconnectConsumer, alive, Prod.mk.injEq, Except.error.injEq] at refused
    obtain ⟨rfl, rfl⟩ := refused
    exact ⟨rfl, rfl⟩
  | ok _ =>
    simp only [disconnectConsumer, alive] at refused
    split at refused
    · cases congrArg Prod.snd refused
    · split at refused
      · cases congrArg Prod.snd refused
      · cases congrArg Prod.snd refused

/-- A look for diagnostics fails only if it was stopped before it read anything. -/
theorem snapshot_refuses (refused : s.snapshot g live name = .error cause) :
    live.check = .error cause := by
  cases alive : live.check with
  | error reason =>
    rw [snapshot, alive] at refused
    exact congrArg Except.error (Except.error.inj refused)
  | ok _ =>
    rw [snapshot, alive] at refused
    cases refused

theorem snapshotAll_refuses (refused : s.snapshotAll g live = .error cause) :
    live.check = .error cause := by
  cases alive : live.check with
  | error reason =>
    rw [snapshotAll, alive] at refused
    exact congrArg Except.error (Except.error.inj refused)
  | ok _ =>
    rw [snapshotAll, alive] at refused
    cases refused

end Segment

namespace Commons

variable {x : Commons} {call : ClaimCall} {cause : Error}

/-- A call that fails leaves what the others made meanwhile. -/
theorem claim_refuses (failed : (x.claim call).result = .error cause) :
    (x.claim call).after = x.meanwhile call ((x.claim call).looks - 1) := by
  cases fault : Segment.claimFault? x.geometry call.name call.consumers with
  | some reason =>
    simp only [claim, fault]
    rfl
  | none =>
    have ends := claim_ends fault
    generalize x.claim call = out at ends failed ⊢
    cases ends with
    | settled j result late soon stale answered =>
      have failed : result = .error cause := failed
      rw [failed] at answered
      rw [Nat.add_sub_cancel, look_failed answered]
    | unresolved => rw [Nat.add_sub_cancel]

theorem acquire_refuses {live : Liveness} {retryLimit : Nat} {session : Session} {name : String}
    {consumers : Nat} {t : Segment}
    (refused : x.memory.acquire x.geometry live retryLimit session name consumers =
      (t, .error cause)) : t = x.memory := by
  let call : ClaimCall := ⟨session, name, consumers, retryLimit, fun _ => live, fun _ => []⟩
  have alone := x.claim_alone call (fun _ => rfl) (fun _ => rfl)
  obtain ⟨after, result⟩ := Prod.mk.inj (alone.symm.trans refused)
  rw [← after, claim_refuses result, meanwhile_alone fun _ => rfl]

/-- A call on the registry that fails leaves everything as it was: a claim what the others made of
it meanwhile, after however many looks; and a session that is refused a role, unless the slot of its
node failed or is done. Then that slot is done and the producer is signalled, and the session is
told what the slot was before. -/
theorem failed_calls_keep_memory (c : Config) (creator : ProcessId) (moves : List Move) :
    let x := (start c creator).run moves
    let s := x.memory
    let g := x.geometry
    (∀ call cause, (x.claim call).result = .error cause →
        (x.claim call).after = x.meanwhile call ((x.claim call).looks - 1)) ∧
      (∀ live retryLimit session name consumers cause t,
        s.acquire g live retryLimit session name consumers = (t, .error cause) → t = s) ∧
      (∀ live session name cause t, s.release g live session name = (t, .error cause) → t = s) ∧
      (∀ live session name cause t,
        s.disconnectConsumer g live session name = (t, .error cause) → t = s) ∧
      (∀ live name cause, s.snapshot g live name = .error cause → live.check = .error cause) ∧
      (∀ live cause, s.snapshotAll g live = .error cause → live.check = .error cause) ∧
      ∀ live session name consumerNodes distribution cause t,
        s.bind g live session name consumerNodes distribution = (t, .error cause) →
          (cause = .notFound name ∨ cause = .notAConsumer name session.node ∨
              (∃ k pid, cause = .alreadyBound name k pid) ∨ live.check = .error cause) ∧ t = s ∨
            ∃ i k, s.find? g.maxQueues name = some i ∧
              k < (s.entries.getD i default).slots.size ∧ (s.slotAt i k).node = session.node ∧
              (∀ j, j < k → (s.slotAt i j).node ≠ session.node) ∧
              cause = .producerFailed name k (s.slotAt i k).status ∧ t = s.closeSlot i k := by
  intro x s g
  refine ⟨fun call cause => claim_refuses, fun live retryLimit session name consumers cause t =>
    acquire_refuses, fun live session name cause t refused => (Segment.release_refuses refused).1,
    fun live session name cause t refused => (Segment.disconnectConsumer_refuses refused).1,
    fun live name cause => Segment.snapshot_refuses, fun live cause => Segment.snapshotAll_refuses,
    ?_⟩
  intro live session name consumerNodes distribution cause t refused
  cases Segment.bind_refuses refused with
  | stopped cause checked => exact .inl ⟨.inr (.inr (.inr checked)), rfl⟩
  | absent => exact .inl ⟨.inl rfl, rfl⟩
  | outsider => exact .inl ⟨.inr (.inl rfl), rfl⟩
  | occupied i k => exact .inl ⟨.inr (.inr (.inl ⟨k, _, rfl⟩)), rfl⟩
  | closed i k found inside own first => exact .inr ⟨i, k, found, inside, own, first, rfl, rfl⟩

/-- A producer that fails before its reader attaches. -/
def failedEarly : List Move :=
  [.acquire undisturbed ⟨100, 0⟩ "rows" 1, .acquire undisturbed ⟨101, 1⟩ "rows" 1,
    .bind undisturbed ⟨100, 0⟩ "rows" [1] [0, 1] 64, .produce 0 (.call .reset)]

theorem failed_calls_keep_memory_failedEarly :
    let x := (start narrow 1).run failedEarly
    x.memory.bind x.geometry undisturbed ⟨101, 1⟩ "rows" [1] [0, 1] =
        (x.memory.closeSlot 0 0, .error (.producerFailed "rows" 0 .error)) ∧
      (x.memory.slotAt 0 0).status = .error := by
  intro x
  have found : x.memory.find? x.geometry.maxQueues "rows" = some 0 := by decide +kernel
  have taken : (x.memory.producerOf 0).pid ≠ 0 := by decide +kernel
  have failed : (x.memory.slotAt 0 0).status = .error := by decide +kernel
  have told : ((x.memory.queue (x.memory.handleAt 0)).bindConsumer ⟨101, 1⟩ "rows").2 =
      .error (.producerFailed "rows" 0 .error) := by decide +kernel
  have bound : x.memory.bind x.geometry undisturbed ⟨101, 1⟩ "rows" [1] [0, 1] = _ :=
    Segment.bind_taken rfl found taken
  rw [told] at bound
  refine ⟨bound.trans (congrArg (·, _) ?_), failed⟩
  rcases (failed_calls_keep_memory narrow 1 failedEarly).2.2.2.2.2.2 _ _ _ _ _ _ _ bound with
    ⟨other, -⟩ | ⟨i, k, found', -, -, -, same, closed⟩
  · rcases other with other | other | ⟨_, _, other⟩ | other
    · cases other
    · cases other
    · cases other
    · cases other
  · obtain rfl := Option.some_inj.mp (found.symm.trans found')
    injection same with _ slot
    rw [closed, slot]

end Commons

end RecordExchange
