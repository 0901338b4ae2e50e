import RecordExchange.Proofs.Commons.Handles

set_option autoImplicit false

/-!
Which reads that find nothing let the producer know.

A producer that holds records back sleeps on its latch until a reader has made room. A reader takes a
row without a word; it is when it finds none that it sets the producer's latch: at the end of the
data, at a failure, and before it goes to sleep. A reader that does not want to sleep is sent back
before that, so one that only ever polls lets the producer sleep.
-/

namespace RecordExchange

-- comparing buffers must not run through their cells
attribute [local irreducible] Ring.storeFrom Ring.fetchFrom

/-- Why a step of a read that finds no row may end without a word to the producer. -/
inductive Slot.Unheard (slot : Slot) (canWait : Bool) : ReadPoint → Prop
  /-- The caller does not want to wait. -/
  | polls (active : slot.status = .active) (impatient : canWait = false) : Unheard slot canWait .row
  /-- The chunk that the reader asked for is not to come: somebody else took it, or the slot is that
  of another queue by now. What lies in the buffer passes for the last chunk, or the read fails. -/
  | astray {record : LongRecord} (opened : slot.IsOpen)
      (answered : slot.ring.count ≠ .longRecord) : Unheard slot canWait (.chunk record)

namespace Consumer

variable {c : Consumer} {q : Queue} {canWait : Bool} {point : ReadPoint} {unheard : Prop}

/-- Whether a producer is told: its latch is set after a step, or as it was and the step tells
nobody. -/
inductive Signals (q : Queue) (unheard : Prop) (after : Queue) : Prop
  | tells (heard : ¬ unheard) (set : after.sync.producer.isSet = true)
  | leaves (silent : unheard) (same : after.sync.producer = q.sync.producer)

theorem Signals.isSet_iff {after : Queue} (signals : Signals q unheard after) :
    after.sync.producer.isSet = true ↔ q.sync.producer.isSet = true ∨ ¬ unheard := by
  cases signals with
  | tells heard set => exact iff_of_true set (.inr heard)
  | leaves silent same =>
    rw [same]
    exact ⟨.inl, fun told => told.resolve_right fun heard => heard silent⟩

theorem fail_signals (c : Consumer) (q : Queue) {status : SlotStatus} (undone : status ≠ .done)
    (heard : ¬ unheard) : Signals q unheard (c.fail q status).1 := by
  rw [fail, if_neg undone]
  exact .tells heard rfl

theorem deliver_producer (c : Consumer) (q : Queue) (ring : Ring) (payload : Record) :
    (c.deliver q ring payload).1.sync.producer = q.sync.producer := by
  rcases deliver_cases c q ring payload with ⟨-, made⟩ | ⟨-, made⟩
  · rw [made]
    rfl
  · rw [made]
    rfl

theorem pull_producer (c : Consumer) (q : Queue) {ring : Ring} (record : LongRecord)
    (remaining : Nat) (none : ring.rows = 0) :
    (c.pull q ring record remaining).1.sync.producer = q.sync.producer := by
  have other : ring.count ≠ .rows 1 := by
    intro only
    rw [Ring.rows_of_count only] at none
    exact Nat.one_ne_zero none
  rw [pull]
  split
  · exact deliver_producer c q _ _
  · rw [if_neg other]
    rfl

theorem readStep_row_signals (c : Consumer) (q : Queue) (canWait : Bool)
    (none : (q.lane c.index).slot.ring.rows = 0)
    (undone : (q.lane c.index).slot.status ≠ .done) :
    Signals q ((q.lane c.index).slot.Unheard canWait .row) (c.readStep canWait .row q).1 := by
  have inactive (closed : (q.lane c.index).slot.status ≠ .active) :
      ¬ (q.lane c.index).slot.Unheard canWait .row := by
    intro silent
    cases silent with
    | polls active _ => exact closed active
  simp only [readStep, none, ↓reduceIte]
  split
  · rename_i ended
    exact .tells (inactive (by rw [ended]; exact SlotStatus.noConfusion)) rfl
  · rename_i active
    cases canWait with
    | false => exact .leaves (.polls active rfl) rfl
    | true =>
      refine .tells (fun silent => ?_) rfl
      cases silent with
      | polls _ impatient => cases impatient
  · rename_i closed
    exact fail_signals c q undone (inactive closed)

theorem readStep_chunk_signals (c : Consumer) (q : Queue) (canWait : Bool) (record : LongRecord)
    (none : (q.lane c.index).slot.ring.rows = 0)
    (undone : (q.lane c.index).slot.status ≠ .done) :
    Signals q ((q.lane c.index).slot.Unheard canWait (.chunk record))
      (c.readStep canWait (.chunk record) q).1 := by
  simp only [readStep]
  split
  · rename_i failed
    refine fail_signals c q SlotStatus.noConfusion fun silent => ?_
    cases silent with
    | astray opened _ => exact Slot.not_isOpen_of_error failed opened
  · rename_i done
    exact absurd done undone
  · rename_i failed done
    have opened : (q.lane c.index).slot.IsOpen := Slot.isOpen_of_ne failed done
    split
    · rename_i asked
      refine .tells (fun silent => ?_) rfl
      cases silent with
      | astray _ answered => exact answered asked
    · rename_i answered
      by_cases next : (q.lane c.index).slot.ring.readLength.1 = record.missing
      · rw [Ring.resumeLong_of_eq next]
        exact .leaves (.astray opened answered) (pull_producer c q record record.missing none)
      · rw [Ring.resumeLong_of_ne next]
        exact .leaves (.astray opened answered) rfl

/-- A step of a read that finds no row in a slot that is not done lets the producer know, unless for
one of the listed reasons. -/
theorem readStep_signals (c : Consumer) (q : Queue) (canWait : Bool) (point : ReadPoint)
    (none : (q.lane c.index).slot.ring.rows = 0)
    (undone : (q.lane c.index).slot.status ≠ .done) :
    Signals q ((q.lane c.index).slot.Unheard canWait point) (c.readStep canWait point q).1 := by
  cases point with
  | row => exact readStep_row_signals c q canWait none undone
  | chunk record => exact readStep_chunk_signals c q canWait record none undone

theorem readStep_polls (none : (q.lane c.index).slot.ring.rows = 0)
    (active : (q.lane c.index).slot.status = .active) :
    c.readStep false .row q = (q, c, .ended (.ok .wouldBlock)) := by
  simp only [readStep, none, active, Bool.false_eq_true, ↓reduceIte]

end Consumer

/-- Who waits on a latch is woken exactly if it is set, whatever else there is to know. -/
theorem Latch.keepWaiting_woken_iff (l : Latch) (live : Liveness) :
    l.keepWaiting live = .woken ↔ l.isSet = true := by
  unfold keepWaiting
  split
  · rename_i set
    exact iff_of_true rfl set
  · rename_i clear
    refine iff_of_false ?_ clear
    cases live.check with
    | error cause => exact WaitState.noConfusion
    | ok _ => exact WaitState.noConfusion

namespace Commons

variable {x : Commons} {k : Nat} {seat : ConsumerSeat} {move : ConsumerMove} {canWait : Bool}
  {point : ReadPoint}

theorem perform_polls (here : x.consumers[k]? = some seat)
    (reads : seat.takesUp move = some (canWait, .row)) (none : (x.laneOf seat).slot.ring.rows = 0)
    (silent : (x.laneOf seat).slot.Unheard canWait .row) :
    (seat.consumer.readStep canWait .row (x.memory.queue seat.consumer.handle)).2.2 =
        .ended (.ok .wouldBlock) ∧
      x.perform (.consume k move) = x := by
  cases silent with
  | polls active impatient =>
    subst impatient
    have polled : seat.consumer.readStep false .row (x.memory.queue seat.consumer.handle) =
        (x.memory.queue seat.consumer.handle, seat.consumer, .ended (.ok .wouldBlock)) :=
      Consumer.readStep_polls none active
    refine ⟨by rw [polled], ?_⟩
    have stays : seat.read false .row (x.memory.queue seat.consumer.handle) =
        (seat, x.memory.queue seat.consumer.handle) := by
      obtain ⟨-, ⟨-, stands, -⟩ | ⟨-, -, waits⟩⟩ := ConsumerSeat.takesUp_cases reads
      · rw [ConsumerSeat.read, polled]
        dsimp only [ConsumerSeat.after]
        rw [← stands]
      · cases waits
    simp only [perform, consume, here]
    rw [ConsumerSeat.step_of_takesUp reads, stays, Segment.setQueue_queue, set_same here]

/-- What a reader's move makes of the latch that the producers of its queue sleep on. -/
theorem consume_latch (has : x.memory.Has seat.consumer.handle) (here : x.consumers[k]? = some seat)
    (move : ConsumerMove) {h : Handle} (block : h.block = seat.consumer.handle.block) :
    (x.memory.queue h).sync = (x.memory.queue seat.consumer.handle).sync ∧
      ((x.perform (.consume k move)).memory.queue h).sync =
        (seat.step (x.memory.queue seat.consumer.handle) move).2.sync := by
  have shared (s : Segment) : (s.queue h).sync = (s.queue seat.consumer.handle).sync := by
    change s.blocks.getD h.block default = s.blocks.getD seat.consumer.handle.block default
    rw [block]
  refine ⟨shared x.memory, ?_⟩
  rw [shared]
  simp only [perform, consume, here]
  rw [has.queue_setQueue]

/-- Whom a read tells that found no row in a slot that is not done, after every run: the producer of
the queue finds its latch set afterwards, and wakes up if it sleeps, exactly if the latch was set
before or the read does not end for one of the listed reasons. Of those the usual one is that the
caller only polls: it is told that there is nothing to read yet, and nothing changes, whatever the
producer holds back. -/
theorem producer_signalled_iff (c : Config) (creator : ProcessId) (moves : List Move) :
    let x := (start c creator).run moves
    ∀ (k : Nat) (seat : ConsumerSeat) (move : ConsumerMove) (canWait : Bool) (point : ReadPoint),
      x.consumers[k]? = some seat → seat.takesUp move = some (canWait, point) →
      let slot := (x.laneOf seat).slot
      let y := x.perform (.consume k move)
      slot.status ≠ .done → slot.ring.rows = 0 →
        (∀ p ∈ x.producers, p.producer.handle.entry = seat.consumer.handle.entry →
          let latch := (y.memory.queue p.producer.handle).sync.producer
          let told := (x.memory.queue p.producer.handle).sync.producer.isSet = true ∨
            ¬ slot.Unheard canWait point
          (latch.isSet = true ↔ told) ∧ ∀ live, latch.keepWaiting live = .woken ↔ told) ∧
        (point = .row → slot.Unheard canWait point →
          (seat.consumer.readStep canWait point (x.memory.queue seat.consumer.handle)).2.2 =
              .ended (.ok .wouldBlock) ∧ y = x) := by
  intro x k seat move canWait point here reads slot y undone none
  have founded : x.Founded := (Founded.start c creator).run moves
  have paired : x.ledger.Paired := paired_from_start c creator moves
  have member := List.mem_of_getElem? here
  have held : seat.holding ∈ x.ledger.consumers := List.mem_map_of_mem member
  refine ⟨?_, ?_⟩
  · intro p there entry latch told
    have block : p.producer.handle.block = seat.consumer.handle.block :=
      calc p.producer.handle.block
          = p.producer.handle.entry := paired.producers _ (List.mem_map_of_mem there)
        _ = seat.consumer.handle.entry := entry
        _ = seat.consumer.handle.block := (paired.consumers _ held).symm
    have has := (founded.built.serves (founded.sound.consumers _ held)).has
    obtain ⟨before, after⟩ := consume_latch has here move block
    have signals := seat.consumer.readStep_signals (x.memory.queue seat.consumer.handle) canWait
      point none undone
    have set : latch.isSet = true ↔ told := by
      change (y.memory.queue p.producer.handle).sync.producer.isSet = true ↔
        (x.memory.queue p.producer.handle).sync.producer.isSet = true ∨ _
      rw [after, before, ConsumerSeat.step_of_takesUp reads]
      exact signals.isSet_iff
    exact ⟨set, fun live => (latch.keepWaiting_woken_iff live).trans set⟩
  · rintro rfl silent
    exact perform_polls here reads none silent

/-- A producer unbinds while its consumer has one of two records in the buffer, and sleeps until
there is room for the other one. The consumer takes the record. -/
def undelivered : List Move :=
  [.acquire undisturbed ⟨100, 0⟩ "rows" 1, .acquire undisturbed ⟨101, 1⟩ "rows" 1,
    .bind undisturbed ⟨100, 0⟩ "rows" [1] [0, 1] 64,
    .bind undisturbed ⟨101, 1⟩ "rows" [1] [0, 1] 64,
    .produce 0 (.call (.write 0 [1])), .produce 0 (.call (.write 0 [2])),
    .produce 0 (.unbind false), .produce 0 (.close undisturbed), .consume 0 (.read false)]

/-- A consumer that waits for the next record wakes the producer. -/
theorem producer_signalled_iff_waiting :
    let x := (start narrow 1).run undelivered
    let y := x.perform (.consume 0 (.read true))
    ∃ p, x.producers = [p] ∧ p.stand = .asleep false .flush ∧ p.producer.pending 0 = 1 ∧
      (x.memory.queue p.producer.handle).sync.producer.keepWaiting undisturbed = .asleep ∧
      (y.memory.queue p.producer.handle).sync.producer.keepWaiting undisturbed = .woken := by
  intro x y
  have stands : x.producers.map (fun p =>
      (p.stand, p.producer.pending 0, p.producer.handle.entry,
        (x.memory.queue p.producer.handle).sync.producer.keepWaiting undisturbed)) =
      [(.asleep false .flush, 1, 0, .asleep)] := by decide +kernel
  have reads : x.consumers[0]?.map (fun seat =>
      (seat.takesUp (.read true), seat.consumer.handle.entry, (x.laneOf seat).slot.status,
        (x.laneOf seat).slot.ring.rows)) = some (some (true, .row), 0, .active, 0) := by
    decide +kernel
  obtain ⟨p, single, found⟩ := List.map_eq_singleton_iff.mp stands
  simp only [Prod.mk.injEq] at found
  obtain ⟨asleep, pending, place, waits⟩ := found
  obtain ⟨seat, here, found⟩ := Option.map_eq_some_iff.mp reads
  simp only [Prod.mk.injEq] at found
  obtain ⟨begins, entry, active, none⟩ := found
  have undone : (x.laneOf seat).slot.status ≠ .done := by
    rw [active]
    exact SlotStatus.noConfusion
  have heard : ¬ (x.laneOf seat).slot.Unheard true .row := by
    intro silent
    cases silent with
    | polls _ impatient => cases impatient
  have member : p ∈ x.producers := by
    rw [single]
    exact List.mem_singleton_self p
  have told := (producer_signalled_iff narrow 1 undelivered 0 seat (.read true) true .row here begins
    undone none).1 p member (place.trans entry.symm)
  exact ⟨p, single, asleep, pending, waits, (told.2 undisturbed).mpr (.inr heard)⟩

/-- One that polls is told that there is nothing yet, and the producer sleeps on. -/
theorem poll_leaves_producer_asleep :
    let x := (start narrow 1).run undelivered
    let y := x.perform (.consume 0 (.read false))
    x.consumers.map (fun seat => (seat.takesUp (.read false), (x.laneOf seat).slot.status,
        (x.laneOf seat).slot.ring.rows)) = [(some (false, .row), .active, 0)] ∧
      x.producers.map (fun p => (p.stand, p.producer.pending 0)) =
        [(.asleep false .flush, 1)] ∧
      y.producers.map (fun p => (p.stand,
        (y.memory.queue p.producer.handle).sync.producer.keepWaiting undisturbed)) =
        [(.asleep false .flush, .asleep)] := by
  decide +kernel

end Commons

end RecordExchange
