import RecordExchange.Proofs.Commons.Sleeping
import RecordExchange.Proofs.Commons.Unbinding
import RecordExchange.Proofs.Commons.Actions

set_option autoImplicit false

/-!
Which queue a handle acts on.

A handle names an entry and a sync block by their places, and places are handed out again. A
producer holds a reference, so its place still has its queue until it has let go, and after that it
does nothing. A consumer holds none: once its session has given its claim up the queue may go and
another one take its place, and the consumer's handle acts on that one as it would have on its own.
-/

namespace RecordExchange

namespace Segment

/-! What is done through a handle. -/

variable {s t u : Segment} {h : Handle} {q : Queue}

/-- From `s` to `t` no entry changed and no sync block but those that a handle names. -/
structure Spares (s t : Segment) (h : Handle) : Prop where
  entries : ∀ e, e ≠ h.entry → t.entries.getD e default = s.entries.getD e default
  blocks : ∀ b, b ≠ h.block → t.blocks.getD b default = s.blocks.getD b default

theorem Spares.refl (s : Segment) (h : Handle) : s.Spares s h := ⟨fun _ _ => rfl, fun _ _ => rfl⟩

theorem Spares.trans (first : s.Spares t h) (second : t.Spares u h) : s.Spares u h :=
  ⟨fun e other => (second.entries e other).trans (first.entries e other),
    fun b other => (second.blocks b other).trans (first.blocks b other)⟩

theorem setQueue_spares (s : Segment) (h : Handle) (q : Queue) : s.Spares (s.setQueue h q) h := by
  constructor
  · intro e other
    rw [Segment.setQueue, setQueueAt_entry_other other]
  · intro b other
    rw [Segment.setQueue, setQueueAt_block_other other]

/-- The places of a handle are there, and the entry is served by the block. -/
structure Joins (s : Segment) (h : Handle) : Prop where
  has : s.Has h
  block : (s.queue h).entry.block = h.block

theorem Joins.setQueue (joins : s.Joins h) (same : q.entry.block = (s.queue h).entry.block) :
    (s.setQueue h q).Joins h := by
  refine ⟨joins.has.setQueue q, ?_⟩
  rw [joins.has.queue_setQueue, same]
  exact joins.block

/-- A queue that goes takes its entry and its block with it. -/
theorem Joins.remove_spares (joins : s.Joins h) (name : String) :
    s.Spares (s.remove h.entry name) h := by
  have own : (s.entries.getD h.entry default).block = h.block := joins.block
  simp only [remove]
  split
  · constructor
    · intro e other
      rw [getD_setIfInBounds, if_neg fun found => other found.1.symm]
    · intro b other
      rw [getD_setIfInBounds, own, if_neg fun found => other found.1.symm]
  · exact ⟨fun _ _ => rfl, fun _ _ => rfl⟩

theorem Joins.dropReference_spares (joins : s.Joins h) : s.Spares (s.dropReference h) h := by
  have counted := setQueue_spares s h (s.queue h).dropReference
  simp only [dropReference]
  split
  · have later := joins.setQueue (q := (s.queue h).dropReference) rfl
    exact counted.trans (later.remove_spares h.name)
  · exact counted

theorem abandon_spares (p : Producer) (joins : s.Joins p.handle) :
    s.Spares (p.abandon s).2 p.handle := by
  have put (q : Queue) (same : q.outline = (s.queue p.handle).outline) :
      s.Spares ((s.setQueue p.handle q).dropReference p.handle) p.handle :=
    (setQueue_spares s p.handle q).trans
      (joins.setQueue (congrArg (·.title.block) same)).dropReference_spares
  apply put
  rw [Queue.onProducerLatch_outline, Queue.mapLanes_outline]

theorem closeStep_spares (p : Producer) (joins : s.Joins p.handle) (failed : Bool)
    (live : Liveness) (point : ClosePoint) :
    s.Spares (p.closeStep s failed live point).2.1 p.handle := by
  have put (q : Queue) : s.Spares (s.setQueue p.handle q) p.handle := setQueue_spares s p.handle q
  match point with
  | .run .flush =>
    have handle : (p.finish (s.queue p.handle)).1.handle = p.handle := Producer.finish_handle ..
    cases passed : (p.finish (s.queue p.handle)).2.2 with
    | error cause =>
      have outline := Producer.finish_outline p (s.queue p.handle)
      have later := joins.setQueue (congrArg (·.title.block) outline)
      have abandoned := abandon_spares (p.finish (s.queue p.handle)).1 (handle.symm ▸ later)
      rw [handle] at abandoned
      rw [Producer.closeStep_flush_failed (Producer.finish_eq passed), handle]
      exact (put _).trans abandoned
    | ok pending =>
      cases pending with
      | zero =>
        rw [Producer.closeStep_flush_done (Producer.finish_eq passed), handle]
        exact put _
      | succ pending =>
        rw [Producer.closeStep_flush_pending (Producer.finish_eq passed), handle]
        exact put _
  | .woken .flush => exact put _
  | .timedOut .flush => exact put _
  | .run .sweep =>
    by_cases awaited : (!failed && (s.queue p.handle).lanes.any Producer.isAwaited) = true
    · rw [Producer.closeStep_sweep_waits awaited]
      exact put _
    · rw [Producer.closeStep_sweep_done awaited]
      exact put _
  | .woken .sweep => exact .refl s _
  | .timedOut .sweep => exact put _
  | .settle =>
    cases checked : live.check with
    | error cause =>
      rw [Producer.closeStep_settle_failed checked]
      exact abandon_spares p joins
    | ok _ =>
      by_cases running : (s.queue p.handle).lanes.any Producer.isRunning = true
      · rw [Producer.closeStep_settle_running checked running]
        exact .refl s _
      · rw [Producer.closeStep_settle_over checked running]
        have later := joins.setQueue (q := (s.queue p.handle).onProducerLatch Latch.disown) rfl
        exact (put _).trans later.dropReference_spares

end Segment

theorem ProducerSeat.step_spares (seat : ProducerSeat) {s : Segment}
    (joins : s.Joins seat.producer.handle) (move : ProducerMove) :
    s.Spares (seat.step s move).2 seat.producer.handle := by
  have still : s.Spares s seat.producer.handle := .refl s _
  obtain ⟨p, limit, stand, turn⟩ := seat
  cases move with
  | call c =>
    cases stand with
    | bound => exact Segment.setQueue_spares s p.handle _
    | _ => exact still
  | unbind failed =>
    cases stand with
    | bound => exact still
    | _ => exact still
  | close live =>
    cases stand with
    | closing failed point => exact Segment.closeStep_spares p joins failed live point
    | _ => exact still
  | wake timely =>
    cases stand with
    | asleep failed pass => exact still
    | _ => exact still
  | giveUp live =>
    cases stand with
    | asleep failed pass =>
      simp only [step]
      cases live.check with
      | ok _ => exact still
      | error cause => exact Segment.abandon_spares p joins
    | _ => exact still

/-- A producer that has let go does nothing any more. -/
theorem ProducerSeat.step_gone {seat : ProducerSeat} (closed : seat.isOpen = false) (s : Segment)
    (move : ProducerMove) : (seat.step s move).2 = s := by
  obtain ⟨p, limit, stand, turn⟩ := seat
  cases stand with
  | gone => cases move <;> rfl
  | _ => cases closed

/-! A consumer in a place that has another queue by now. -/

/-- A step of a read that brings nothing: no row was there, or the slot is closed. -/
def ReadStep.Empty : ReadStep → Prop
  | .ended (.ok .wouldBlock) => True
  | .ended (.error (.slotClosed _ _)) => True
  | _ => False

/-- A slot has an answer for a read that stands at a point, or puts the reader to sleep. -/
def Slot.Answers (slot : Slot) (canWait : Bool) : ReadPoint → Prop
  | .row => slot.ring.rows = 0 →
      slot.status ≠ .done ∧ (slot.status = .active → canWait = true)
  | .chunk _ => slot.status ≠ .done

namespace Consumer

variable {c : Consumer} {q : Queue} {canWait : Bool} {point : ReadPoint}

theorem deliver_not_empty (c : Consumer) (q : Queue) (ring : Ring) (payload : Record) :
    ¬ (c.deliver q ring payload).2.2.Empty := by
  rcases deliver_result c q ring payload with result | result
  · rw [result]
    exact id
  · rw [result]
    exact id

theorem pull_not_empty (c : Consumer) (q : Queue) (ring : Ring) (record : LongRecord)
    (remaining : Nat) : ¬ (c.pull q ring record remaining).2.2.Empty := by
  rw [pull]
  split
  · exact deliver_not_empty c q _ _
  · split
    · exact id
    · exact id

/-- A read that finds no answer leaves the queue as it is. -/
theorem readStep_unanswered (unanswered : ¬ (q.lane c.index).slot.Answers canWait point) :
    (c.readStep canWait point q).1 = q ∧ (c.readStep canWait point q).2.2.Empty := by
  cases point with
  | chunk record =>
    have done : (q.lane c.index).slot.status = .done := not_not.mp unanswered
    simp only [readStep, done, fail, ↓reduceIte]
    exact ⟨trivial, trivial⟩
  | row =>
    obtain ⟨none, closed⟩ := Classical.not_imp.mp unanswered
    by_cases done : (q.lane c.index).slot.status = .done
    · simp only [readStep, none, done, fail, ↓reduceIte]
      exact ⟨trivial, trivial⟩
    · obtain ⟨active, impatient⟩ := Classical.not_imp.mp fun waits => closed ⟨done, waits⟩
      simp only [readStep, none, active, impatient, ↓reduceIte]
      exact ⟨rfl, trivial⟩

theorem readStep_answered (answers : (q.lane c.index).slot.Answers canWait point) :
    ¬ (c.readStep canWait point q).2.2.Empty := by
  cases point with
  | chunk record =>
    simp only [readStep]
    split
    · exact id
    · rename_i done
      exact absurd done answers
    · split
      · exact id
      · by_cases next : (q.lane c.index).slot.ring.readLength.1 = record.missing
        · rw [Ring.resumeLong_of_eq next]
          exact pull_not_empty c q _ _ _
        · rw [Ring.resumeLong_of_ne next]
          exact id
  | row =>
    simp only [readStep]
    split
    · rename_i none
      obtain ⟨unfinished, waits⟩ := answers none
      split
      · exact id
      · rename_i active
        rw [if_pos (waits active)]
        exact id
      · rename_i ended active
        rw [fail, if_neg unfinished]
        exact id
    · split
      · exact pull_not_empty c q _ _ _
      · exact deliver_not_empty c q _ _

end Consumer

namespace ConsumerSeat

/-- What a move of a consumer finds something to do on: a read that has an answer, or the end of a
slot that is still to be closed. -/
inductive Disturbs (seat : ConsumerSeat) (slot : Slot) : ConsumerMove → Prop
  | reads {move : ConsumerMove} {canWait : Bool} {point : ReadPoint}
      (reads : seat.takesUp move = some (canWait, point)) (answers : slot.Answers canWait point) :
      Disturbs seat slot move
  | leaves (opened : seat.isOpen = true) (awake : seat.reading = none)
      (unfinished : slot.status ≠ .done) : Disturbs seat slot .leave
  | drops (opened : seat.isOpen = true) (awake : seat.reading = none)
      (unfinished : slot.status ≠ .done) (reading : seat.consumer.finished = false) :
      Disturbs seat slot .drop

variable {seat : ConsumerSeat} {q : Queue} {move : ConsumerMove}

/-- The move is no read, or one that brings nothing. -/
def Unanswered (seat : ConsumerSeat) (q : Queue) (move : ConsumerMove) : Prop :=
  ∀ canWait point, seat.takesUp move = some (canWait, point) →
    (seat.consumer.readStep canWait point q).2.2.Empty

theorem reset_changes {c : Consumer} (inside : c.index < q.consumers)
    (unfinished : (q.lane c.index).slot.status ≠ .done) : (c.reset q).1 ≠ q := by
  intro same
  have closed : ((c.reset q).1.lane c.index).slot.status = .done := by
    simp only [Consumer.reset, if_neg unfinished]
    rw [Queue.wakeProducer_lane, Queue.lane_setLane_self inside]
    split
    · rfl
    · rfl
  rw [same] at closed
  exact unfinished closed

theorem Disturbs.changes (disturbs : seat.Disturbs (q.lane seat.consumer.index).slot move)
    (inside : seat.consumer.index < q.consumers) :
    ¬ ((seat.step q move).2 = q ∧ seat.Unanswered q move) := by
  rintro ⟨same, unanswered⟩
  cases disturbs with
  | reads reads answers =>
    exact Consumer.readStep_answered answers (unanswered _ _ reads)
  | leaves opened awake unfinished =>
    simp only [step, opened, awake, ↓reduceIte] at same
    exact reset_changes inside unfinished same
  | drops opened awake unfinished reading =>
    simp only [step, opened, awake, reading, Consumer.drop, ↓reduceIte, Bool.false_eq_true] at same
    exact reset_changes inside unfinished same

theorem unchanged_of_not_disturbs
    (idle : ¬ seat.Disturbs (q.lane seat.consumer.index).slot move) :
    (seat.step q move).2 = q ∧ seat.Unanswered q move := by
  have answers {canWait : Bool} {point : ReadPoint}
      (reads : seat.takesUp move = some (canWait, point)) :
      ¬ (q.lane seat.consumer.index).slot.Answers canWait point :=
    fun answers => idle (.reads reads answers)
  refine ⟨?_, fun canWait point reads => (Consumer.readStep_unanswered (answers reads)).2⟩
  cases taken : seat.takesUp move with
  | some read =>
    rw [step_of_takesUp taken]
    exact (Consumer.readStep_unanswered (answers taken)).1
  | none =>
    obtain ⟨c, reading, isOpen, turn⟩ := seat
    cases isOpen with
    | false => rfl
    | true =>
      cases move with
      | read canWait =>
        cases reading with
        | none => cases taken
        | some point => rfl
      | resume =>
        cases reading with
        | none => rfl
        | some point => cases taken
      | abandon live =>
        cases reading with
        | none => rfl
        | some point =>
          simp only [step, ↓reduceIte]
          split
          · rfl
          · rfl
      | leave =>
        cases reading with
        | some point => rfl
        | none =>
          have done : (q.lane c.index).slot.status = .done :=
            not_not.mp fun unfinished => idle (.leaves rfl rfl unfinished)
          simp only [step, Consumer.reset, done, ↓reduceIte]
      | drop =>
        cases reading with
        | some point => rfl
        | none =>
          simp only [step, Consumer.drop, ↓reduceIte]
          split
          · rfl
          · rename_i stillReading
            have done : (q.lane c.index).slot.status = .done :=
              not_not.mp fun unfinished =>
                idle (.drops rfl rfl unfinished (Bool.eq_false_iff.mpr stillReading))
            simp only [Consumer.reset, done, ↓reduceIte]

end ConsumerSeat

/-! Where a handle's block is. -/

namespace Ledger

variable {l after : Ledger} {move : Move}

/-- Every queue is served by the block whose place has the number of its own, and so says every
handle. -/
structure Paired (l : Ledger) : Prop where
  titles : ∀ i, (l.register.title i).live = true → (l.register.title i).block = i
  producers : ∀ h ∈ l.producers, h.handle.block = h.handle.entry
  consumers : ∀ h ∈ l.consumers, h.handle.block = h.handle.entry

/-- Only a claim makes a queue. -/
theorem Step.live (step : Step l move after)
    (other : ∀ live session name consumers, move ≠ .acquire live session name consumers) {i : Nat}
    (live : (after.register.title i).live = true) :
    (l.register.title i).live = true ∧
      (after.register.title i).block = (l.register.title i).block := by
  have counted (j : Nat) (n : UInt32) := l.register.setReferences_title j n i
  have dropped (j : Nat) (name : String) := l.register.drop_title j name i
  cases step with
  | quiet => exact ⟨live, rfl⟩
  | create => exact absurd rfl (other _ _ _ _)
  | join => exact absurd rfl (other _ _ _ _)
  | takeProducer => exact ⟨(counted _ _).1 ▸ live, (counted _ _).2.2⟩
  | takeConsumer => exact ⟨live, rfl⟩
  | give => exact ⟨(dropped _ _).1 live, (dropped _ _).2.2⟩
  | giveNothing => exact ⟨live, rfl⟩
  | settle => exact ⟨(dropped _ _).1 live, (dropped _ _).2.2⟩
  | leave => exact ⟨live, rfl⟩

/-- Who is bound takes the block from the title of the queue. -/
theorem Step.paired (step : Step l move after) (paired : l.Paired)
    (titles : ∀ i, (after.register.title i).live = true → (after.register.title i).block = i) :
    after.Paired := by
  have bound {i : Nat} {name : String} (named : (l.register.title i).isNamed name = true)
      (session : Session) : (l.holding i name session).handle.block = i :=
    paired.titles i (Title.isNamed_iff.mp named).1
  refine ⟨titles, ?_, ?_⟩
  · cases step with
    | takeProducer named =>
      exact handles_append (fun h => h.block = h.entry) paired.producers (bound named _)
    | settle here => exact handles_set (fun h => h.block = h.entry) paired.producers here
    | _ => exact paired.producers
  · cases step with
    | takeConsumer named =>
      exact handles_append (fun h => h.block = h.entry) paired.consumers (bound named _)
    | leave here => exact handles_set (fun h => h.block = h.entry) paired.consumers here
    | _ => exact paired.consumers

end Ledger

/-- The first place without a queue is the first without a block in use. -/
theorem Segment.freeBlock?_eq {s : Segment} (consistent : s.register.Consistent)
    (titles : ∀ i, (s.register.title i).live = true → (s.register.title i).block = i) (n : Nat) :
    s.freeBlock? n = s.freeEntry? n := by
  have alike (i : Nat) : (s.blocks.getD i default).queue.isNone =
      !(s.entries.getD i default).live := by
    have serves : (s.blocks.getD i default).queue = s.register.serves i := rfl
    cases live : (s.entries.getD i default).live with
    | true =>
      have served := consistent.served i live
      rw [titles i live] at served
      rw [serves, served]
      rfl
    | false =>
      cases used : s.register.serves i with
      | none =>
        rw [serves, used]
        rfl
      | some j =>
        obtain ⟨liveJ, block⟩ := consistent.serving i j used
        rw [← block, titles j liveJ] at live
        cases live.symm.trans liveJ
  simp only [freeBlock?, freeEntry?, alike]

namespace Commons

variable {x : Commons}

/-- A queue that is laid out gets the block that goes with its place. -/
theorem acquire_paired (founded : x.Founded) (paired : x.ledger.Paired) (live : Liveness)
    (session : Session) (name : String) (consumers i : Nat)
    (there : ((x.acquire live session name consumers).memory.register.title i).live = true) :
    ((x.acquire live session name consumers).memory.register.title i).block = i := by
  revert there
  rcases x.acquire_cases live session name consumers with
    quiet | ⟨e, b, -, -, place, pool, -, made⟩ | ⟨e, found, made⟩
  · rw [quiet]
    exact paired.titles i
  · have same : b = e := by
      rw [Segment.freeBlock?_eq founded.sound.consistent paired.titles, place] at pool
      exact (Option.some_inj.mp pool).symm
    have laid := Segment.register_format founded.built place pool name consumers
      (ringLength x.geometry.queueSize consumers)
    rw [made, laid]
    by_cases here : i = e
    · rw [here, Register.layOut_title_self]
      exact fun _ => same
    · rw [Register.layOut_title_other _ here]
      exact paired.titles i
  · have joined := register_addReference founded (Segment.find?_some found).2 (q := _) rfl
    obtain ⟨before, -, block⟩ := Register.setReferences_title x.memory.register e
      ((x.memory.register.title e).references + 1) i
    rw [made, joined]
    intro there
    exact block.trans (paired.titles i (before ▸ there))

theorem perform_paired (founded : x.Founded) (paired : x.ledger.Paired) (move : Move) :
    (x.perform move).ledger.Paired := by
  have step := (perform_step founded move).1
  refine step.paired paired ?_
  by_cases claim : ∃ live session name consumers, move = .acquire live session name consumers
  · obtain ⟨live, session, name, consumers, rfl⟩ := claim
    exact acquire_paired founded paired live session name consumers
  · intro i live
    obtain ⟨before, block⟩ := step.live
      (fun live session name consumers same => claim ⟨live, session, name, consumers, same⟩) live
    exact block.trans (paired.titles i before)

theorem paired_run (founded : x.Founded) (paired : x.ledger.Paired) (moves : List Move) :
    (x.run moves).ledger.Paired := by
  induction moves generalizing x with
  | nil => exact paired
  | cons move rest ih => exact ih (founded.perform move) (perform_paired founded paired move)

theorem paired_from_start (c : Config) (creator : ProcessId) (moves : List Move) :
    ((start c creator).run moves).ledger.Paired :=
  paired_run (.start c creator)
    ⟨fun i live => absurd live (start_vacant c creator i), nofun, nofun⟩ moves

/-- The place of a handle and how often it had been laid out when the party that goes on was
bound. -/
def through (x : Commons) : Move → Option (Handle × Nat)
  | .produce k _ => x.producers[k]?.map fun seat => (seat.producer.handle, seat.turn)
  | .consume k _ => x.consumers[k]?.map fun seat => (seat.consumer.handle, seat.turn)
  | _ => none

theorem through_spares (founded : x.Founded)
    (balanced : x.ledger.withoutConsumers.Balanced) {move : Move} {handle : Handle} {turn : Nat}
    (through : x.through move = some (handle, turn)) :
    x.memory.Spares (x.perform move).memory handle := by
  cases move with
  | produce k move =>
    obtain ⟨seat, here, same⟩ := Option.map_eq_some_iff.mp through
    cases same
    have held : seat.holding ∈ x.ledger.producers :=
      List.mem_map_of_mem (List.mem_of_getElem? here)
    have has := (serves_producer founded (List.mem_of_getElem? here)).has
    simp only [perform, produce, here]
    cases opened : seat.isOpen with
    | false =>
      rw [ProducerSeat.step_gone opened]
      exact .refl ..
    | true => exact seat.step_spares ⟨has, (balanced.producers _ held opened).block⟩ move
  | consume k move =>
    obtain ⟨seat, here, same⟩ := Option.map_eq_some_iff.mp through
    cases same
    simp only [perform, consume, here]
    exact Segment.setQueue_spares ..
  | _ => cases through

/-- The block of the handle of a party is no other queue's. -/
theorem through_block (paired : x.ledger.Paired) {move : Move} {handle : Handle} {turn : Nat}
    (through : x.through move = some (handle, turn)) : handle.block = handle.entry := by
  cases move with
  | produce k move =>
    obtain ⟨seat, here, same⟩ := Option.map_eq_some_iff.mp through
    cases same
    exact paired.producers seat.holding (List.mem_map_of_mem (List.mem_of_getElem? here))
  | consume k move =>
    obtain ⟨seat, here, same⟩ := Option.map_eq_some_iff.mp through
    cases same
    exact paired.consumers seat.holding (List.mem_map_of_mem (List.mem_of_getElem? here))
  | _ => cases through

/-- After every run of sessions that give up no more claims than they made. What is done through a
handle leaves every queue alone that is not in the handle's place. A producer that has not let go
still has its own queue there, and one that has let go does nothing. A consumer's place may have
been laid out again since it was bound. If it was, and the queue that is there by now has a slot of
the consumer's number, then the consumer's move leaves the memory as it is and brings nothing
exactly if it is none that would disturb the consumer's own queue in the same state. -/
theorem handle_keeps_to_queue_iff (c : Config) (creator : ProcessId) (moves : List Move)
    (modest : Along Modest (start c creator) moves) :
    let x := (start c creator).run moves
    (∀ move handle turn, x.through move = some (handle, turn) →
      ∀ e, (x.memory.entries.getD e default).live = true → e ≠ handle.entry →
        (x.perform move).memory.queue (x.memory.handleAt e) =
          x.memory.queue (x.memory.handleAt e)) ∧
    (∀ (k : Nat) (seat : ProducerSeat), x.producers[k]? = some seat →
      (seat.isOpen = true → x.StillBound seat.producer.handle seat.turn) ∧
        (seat.isOpen = false → ∀ move, (x.perform (.produce k move)).memory = x.memory)) ∧
    ∀ (k : Nat) (seat : ConsumerSeat) (move : ConsumerMove), x.consumers[k]? = some seat →
      seat.consumer.index < (x.memory.queue seat.consumer.handle).consumers →
        ((x.turn seat.consumer.handle.entry ≠ seat.turn →
            (x.perform (.consume k move)).memory = x.memory ∧
              seat.Unanswered (x.memory.queue seat.consumer.handle) move) ↔
          x.turn seat.consumer.handle.entry = seat.turn ∨
            ¬ seat.Disturbs (x.laneOf seat).slot move) := by
  intro x
  have founded₀ := Founded.start c creator
  have vacant := start_vacant c creator
  have balanced₀ : (start c creator).ledger.withoutConsumers.Balanced :=
    ⟨rfl, fun i live => absurd live (vacant i), fun i live => absurd live (vacant i),
      fun name some => absurd some (Nat.lt_irrefl 0), nofun, nofun⟩
  have founded : x.Founded := founded₀.run moves
  have balanced : x.ledger.withoutConsumers.Balanced := modest_run founded₀ balanced₀ moves modest
  have paired : x.ledger.Paired :=
    paired_run founded₀ ⟨fun i live => absurd live (vacant i), nofun, nofun⟩ moves
  refine ⟨?_, ?_, ?_⟩
  · intro move handle turn through e live other
    have spares := through_spares founded balanced through
    have apart : (x.memory.handleAt e).block ≠ handle.block := by
      rw [through_block paired through]
      exact fun same => other ((paired.titles e live).symm.trans same)
    exact congrArg₂ Queue.mk (spares.entries e other) (spares.blocks _ apart)
  · intro k seat here
    have held : seat.holding ∈ x.ledger.producers :=
      List.mem_map_of_mem (List.mem_of_getElem? here)
    refine ⟨fun opened => ?_, fun closed move => ?_⟩
    · -- the books are right for the commons without their consumers
      have alone : { x with consumers := [] }.Founded :=
        ⟨founded.built, founded.sound.consistent, founded.sound.producers, nofun⟩
      obtain ⟨live, name, block, serves, turn, counted⟩ :=
        alone.stillBound balanced (balanced.producers seat.holding held opened)
      exact ⟨live, name, block, serves, turn, counted⟩
    · simp only [perform, produce, here]
      exact ProducerSeat.step_gone closed x.memory move
  · intro k seat move here inside
    have held : seat.holding ∈ x.ledger.consumers :=
      List.mem_map_of_mem (List.mem_of_getElem? here)
    have has : x.memory.Has seat.consumer.handle :=
      (founded.built.serves (founded.sound.consumers _ held)).has
    let q := x.memory.queue seat.consumer.handle
    have after : (x.perform (.consume k move)).memory =
        x.memory.setQueue seat.consumer.handle (seat.step q move).2 := by
      simp only [perform, consume, here]
      rfl
    constructor
    · intro keeps
      refine or_iff_not_imp_left.mpr fun newer disturbs => ?_
      obtain ⟨memory, unanswered⟩ := keeps newer
      have found := has.queue_setQueue (seat.step q move).2
      rw [← after, memory] at found
      exact disturbs.changes inside ⟨found.symm, unanswered⟩
    · intro keeps newer
      obtain ⟨still, unanswered⟩ :=
        ConsumerSeat.unchanged_of_not_disturbs (q := q) (keeps.resolve_left newer)
      refine ⟨?_, unanswered⟩
      rw [after, still]
      exact x.memory.setQueue_queue seat.consumer.handle

/-- A consumer outlives its queue: its session gives the claim up, the producer fails and goes, and
other sessions lay a queue out in the same place and bind to it. -/
def outlived : List Move :=
  [.acquire undisturbed ⟨100, 0⟩ "old" 1, .acquire undisturbed ⟨101, 1⟩ "old" 1,
    .bind undisturbed ⟨100, 0⟩ "old" [1] [0, 1] 64, .bind undisturbed ⟨101, 1⟩ "old" [1] [0, 1] 64,
    .release undisturbed ⟨101, 1⟩ "old", .produce 0 (.unbind true), .produce 0 (.close undisturbed),
    .produce 0 (.close undisturbed), .release undisturbed ⟨100, 0⟩ "old",
    .acquire undisturbed ⟨200, 0⟩ "new" 1, .acquire undisturbed ⟨201, 1⟩ "new" 1,
    .bind undisturbed ⟨200, 0⟩ "new" [1] [0, 1] 64, .bind undisturbed ⟨201, 1⟩ "new" [1] [0, 1] 64,
    .produce 1 (.call (.write 0 [7]))]

/-- To let go of it would disturb the new queue, and does. -/
theorem handle_keeps_to_queue_iff_outlived :
    Along Modest (start narrow 1) outlived ∧
      ∃ seat, ((start narrow 1).run outlived).consumers[0]? = some seat ∧
        seat.Disturbs (((start narrow 1).run outlived).laneOf seat).slot .drop ∧
        ((start narrow 1).run outlived).turn seat.consumer.handle.entry ≠ seat.turn ∧
        ¬ ((((start narrow 1).run outlived).perform (.consume 0 .drop)).memory =
            ((start narrow 1).run outlived).memory ∧
          seat.Unanswered (((start narrow 1).run outlived).memory.queue seat.consumer.handle)
            .drop) := by
  have modest : Along Modest (start narrow 1) outlived := by decide +kernel
  have stands : (((start narrow 1).run outlived).consumers[0]?).map (fun seat =>
      (seat.consumer.handle.entry, seat.turn,
        (((start narrow 1).run outlived).laneOf seat).slot.status,
        decide (seat.isOpen = true ∧ seat.reading = none ∧ seat.consumer.finished = false ∧
          seat.consumer.index <
            (((start narrow 1).run outlived).memory.queue seat.consumer.handle).consumers))) =
      some (0, 1, .active, true) := by decide +kernel
  have twice : ((start narrow 1).run outlived).turn 0 = 2 := by decide +kernel
  obtain ⟨seat, here, found⟩ := Option.map_eq_some_iff.mp stands
  simp only [Prod.mk.injEq, decide_eq_true_eq] at found
  obtain ⟨entry, turn, active, opened, awake, reading, inside⟩ := found
  have newer : ((start narrow 1).run outlived).turn seat.consumer.handle.entry ≠ seat.turn := by
    rw [entry, turn, twice]
    exact Nat.succ_ne_self 1
  have unfinished : (((start narrow 1).run outlived).laneOf seat).slot.status ≠ .done := by
    rw [active]
    exact SlotStatus.noConfusion
  have disturbs : seat.Disturbs (((start narrow 1).run outlived).laneOf seat).slot .drop :=
    .drops opened awake unfinished reading
  have keeps := (handle_keeps_to_queue_iff narrow 1 outlived modest).2.2 0 seat .drop here inside
  refine ⟨modest, seat, here, disturbs, newer, fun still => ?_⟩
  rcases keeps.mp fun _ => still with own | idle
  · exact newer own
  · exact idle disturbs

/-- The slot of the new queue, which has a reader and a record of its own, is done. -/
theorem dropping_closes_newer_queue :
    let x := (start narrow 1).run outlived
    let y := x.perform (.consume 0 .drop)
    Along Modest (start narrow 1) outlived ∧
      (x.consumers[0]?).map (fun seat => (seat.consumer.handle.name, seat.turn, x.turn 0)) =
        some ("old", 1, 2) ∧
      (x.memory.entries.getD 0 default).name = "new" ∧ (x.memory.slotAt 0 0).pid = 201 ∧
      (x.memory.slotAt 0 0).status = .active ∧ (x.memory.slotAt 0 0).ring.rows = 1 ∧
      (y.memory.slotAt 0 0).status = .done := by
  decide +kernel

end Commons

end RecordExchange
