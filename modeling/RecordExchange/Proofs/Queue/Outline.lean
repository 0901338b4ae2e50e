import RecordExchange.Binding
import RecordExchange.Proofs.Queue.Outlets
import RecordExchange.Proofs.Reading
import RecordExchange.Proofs.Registry.Register

set_option autoImplicit false

/-!
What the work on a queue leaves alone.

Whatever a bound party does, the entry keeps its title and its number of slots, and the sync block
serves the same entry with the same number of latches. Only a new producer changes one of these: it
takes a reference.
-/

namespace RecordExchange

def Entry.producer (e : Entry) : Session := ⟨e.producerPid, e.producerNode⟩

/-- The title of a queue's entry, the entry its block serves, how many slots and latches there are,
and the session that took up the producer's role. -/
structure Outline where
  title : Title
  serves : Option Nat
  slots : Nat
  latches : Nat
  producer : Session

def Queue.outline (q : Queue) : Outline :=
  ⟨q.entry.title, q.sync.queue, q.consumers, q.sync.consumers.size, q.entry.producer⟩

namespace Queue

variable {q : Queue}

@[simp] theorem setLane_outline (q : Queue) (i : Nat) (l : Lane) :
    (q.setLane i l).outline = q.outline := by
  rw [outline, setLane_consumers]
  simp only [setLane, Array.size_setIfInBounds]
  rfl

@[simp] theorem setLanesFrom_outline (q : Queue) (i : Nat) (lanes : List Lane) :
    (q.setLanesFrom i lanes).outline = q.outline := by
  induction lanes generalizing q i with
  | nil => rfl
  | cons l rest ih => rw [setLanesFrom, ih, setLane_outline]

@[simp] theorem mapLanes_outline (q : Queue) (f : Lane → Lane) : (q.mapLanes f).outline = q.outline :=
  setLanesFrom_outline ..

@[simp] theorem onProducerLatch_outline (q : Queue) (f : Latch → Latch) :
    (q.onProducerLatch f).outline = q.outline := rfl

@[simp] theorem wakeProducer_outline (q : Queue) : q.wakeProducer.outline = q.outline := rfl

@[simp] theorem assignSlot_outline (q : Queue) (node : NodeId) :
    (q.assignSlot node).1.outline = q.outline := by
  simp only [assignSlot]
  split
  · rfl
  · split
    · rfl
    · exact setLane_outline ..

@[simp] theorem mapConsumers_outline (q : Queue) (own : NodeId) (consumerNodes nodes : List NodeId) :
    (q.mapConsumers own consumerNodes nodes).1.outline = q.outline := by
  induction nodes generalizing q with
  | nil => rfl
  | cons node rest ih =>
    simp only [mapConsumers]
    rw [ih]
    split
    · rfl
    · split
      · exact assignSlot_outline ..
      · rfl

/-- A new producer takes a reference, gives its name, and leaves the rest alone. -/
theorem bindProducer_outline (q : Queue) (session : Session) (consumerNodes nodes : List NodeId) :
    (q.bindProducer session consumerNodes nodes).1.outline =
      { q.addReference.outline with producer := session } := by
  let taken : Queue := { q with
    entry := { q.entry with producerPid := session.pid, producerNode := session.node } }
  let mapped :=
    ((taken.onProducerLatch (·.own session.pid)).mapConsumers session.node consumerNodes nodes).1
  have kept : mapped.outline = { q.outline with producer := session } :=
    mapConsumers_outline ..
  simp only [outline, Outline.mk.injEq, Entry.title, Title.mk.injEq] at kept
  change mapped.addReference.outline = { q.addReference.outline with producer := session }
  simp only [outline, Outline.mk.injEq, Entry.title, Title.mk.injEq, addReference]
  obtain ⟨⟨key, live, block, references⟩, rest⟩ := kept
  exact ⟨⟨key, live, block, congrArg (· + 1) references⟩, rest⟩

/-- What becomes of a consumer that binds. It is refused, and a slot that failed or is done is
closed for good; or it is attached to a slot that is open and has no reader. -/
inductive Admits (q : Queue) (session : Session) (name : String)
    (after : Queue × Except Error Nat) : Prop
  | refuses (cause : Error) (made : after = (q, .error cause))
      (reason : q.slotOf? session.node = none ∧ cause = .notAConsumer name session.node ∨
        ∃ i, q.slotOf? session.node = some i ∧ (q.lane i).slot.pid ≠ 0 ∧
          cause = .alreadyBound name i (q.lane i).slot.pid)
  | closes (i : Nat) (inside : i < q.consumers) (closed : ¬ (q.lane i).slot.IsOpen) (cause : Error)
      (made : after = ((q.setLane i ((q.lane i).withStatus .done)).wakeProducer, .error cause))
      (found : q.slotOf? session.node = some i) (free : (q.lane i).slot.pid = 0)
      (reason : cause = .producerFailed name i (q.lane i).slot.status)
  | attaches (i : Nat) (inside : i < q.consumers) (free : (q.lane i).slot.pid = 0)
      (opened : (q.lane i).slot.IsOpen)
      (made : after = (q.setLane i
        ⟨{ (q.lane i).slot with pid := session.pid }, (q.lane i).latch.own session.pid⟩, .ok i))
      (found : q.slotOf? session.node = some i)

theorem bindConsumer_admits (q : Queue) (session : Session) (name : String) :
    q.Admits session name (q.bindConsumer session name) := by
  simp only [bindConsumer]
  split
  · rename_i none
    exact .refuses _ rfl (.inl ⟨none, rfl⟩)
  · rename_i i found
    have inside : i < q.consumers := List.mem_range.mp (List.mem_of_find?_eq_some found)
    split
    · rename_i bound
      exact .refuses _ rfl (.inr ⟨i, found, bound, rfl⟩)
    · rename_i bound
      have free : (q.lane i).slot.pid = 0 := not_not.mp bound
      split
      · rename_i closed
        refine .closes i inside ?_ _ rfl found free rfl
        rcases closed with failed | done
        · exact Slot.not_isOpen_of_error failed
        · exact Slot.not_isOpen_of_done done
      · rename_i open'
        refine .attaches i inside free ?_ rfl found
        cases status : (q.lane i).slot.status with
        | active => exact .inl status
        | eof => exact .inr status
        | error => exact absurd (.inl status) open'
        | done => exact absurd (.inr status) open'

@[simp] theorem bindConsumer_outline (q : Queue) (session : Session) (name : String) :
    (q.bindConsumer session name).1.outline = q.outline := by
  cases q.bindConsumer_admits session name with
  | refuses cause made => rw [made]
  | closes i inside closed cause made =>
    rw [made]
    exact setLane_outline ..
  | attaches i inside free opened made =>
    rw [made]
    exact setLane_outline ..

@[simp] theorem releaseConsumer_outline (q : Queue) (session : Session) :
    (q.releaseConsumer session).outline = q.outline := by
  simp only [releaseConsumer]
  split
  · split
    · rfl
    · exact setLane_outline ..
  · rw [wakeProducer_outline]
    split
    · rw [setLane_outline, mapLanes_outline]
    · rfl

def giveUp (q : Queue) (session : Session) : Queue :=
  if q.entry.producerNode = Slot.unassigned ∨ q.entry.producerNode = session.node then q
  else q.releaseConsumer session

@[simp] theorem giveUp_outline (q : Queue) (session : Session) :
    (q.giveUp session).outline = q.outline := by
  rw [giveUp]
  split
  · rfl
  · exact releaseConsumer_outline ..

@[simp] theorem disconnect_outline (q : Queue) (session : Session) :
    (q.disconnect session).outline = q.outline := mapLanes_outline ..

end Queue

namespace Consumer

/-- A step of a read keeps the outline of the queue, and the reader its place. -/
structure Steady (c : Consumer) (q : Queue) (after : Queue × Consumer × ReadStep) : Prop where
  outline : after.1.outline = q.outline
  place : after.2.1 = c ∨ after.2.1 = { c with finished := true }

theorem readStep_steady (c : Consumer) (canWait : Bool) (point : ReadPoint) (q : Queue) :
    c.Steady q (c.readStep canWait point q) := by
  cases readStep_works c canWait point q with
  | stays result made => exact made ▸ ⟨rfl, .inl rfl⟩
  | takes lane rows status result made => exact made ▸ ⟨Queue.setLane_outline .., .inl rfl⟩
  | sleeps lane rows status next made => exact made ▸ ⟨Queue.setLane_outline .., .inl rfl⟩
  | closes ended spent lane rows result made => exact made ▸ ⟨Queue.setLane_outline .., .inr rfl⟩

@[simp] theorem reset_outline (c : Consumer) (q : Queue) : (c.reset q).1.outline = q.outline := by
  simp only [reset]
  split
  · rfl
  · exact Queue.setLane_outline ..

theorem reset_place (c : Consumer) (q : Queue) :
    (c.reset q).2 = { c with finished := true } := by
  simp only [reset]
  split
  · rfl
  · rfl

@[simp] theorem drop_outline (c : Consumer) (q : Queue) : (c.drop q).outline = q.outline := by
  rw [drop]
  split
  · rfl
  · exact reset_outline ..

end Consumer

namespace Producer

@[simp] theorem write_outline (p : Producer) (limit : Nat) (q : Queue) (i : Nat) (record : Record) :
    (p.write limit q i record).2.1.outline = q.outline := by
  simp only [write]
  split
  · rfl
  · split
    · rfl
    · exact Queue.setLane_outline ..

@[simp] theorem finish_outline (p : Producer) (q : Queue) : (p.finish q).2.1.outline = q.outline := by
  change (p.setOutletsFrom q 0 _).2.outline = _
  rw [setOutletsFrom_queue, Queue.setLanesFrom_outline]

@[simp] theorem drainStep_outline (p : Producer) (q : Queue) :
    (p.drainStep q).2.1.outline = q.outline := by
  rw [← finish_outline p q, drainStep]
  split
  · rename_i passed
    rw [passed]
  · rename_i passed
    rw [passed]
  · rename_i passed
    rw [passed]

@[simp] theorem canPause_outline (q : Queue) : (canPause q).2.outline = q.outline := by
  rw [canPause]
  split
  · rfl
  · rfl

@[simp] theorem reset_outline (p : Producer) (q : Queue) : (p.reset q).2.outline = q.outline := by
  simp only [reset]
  split
  · exact Queue.mapLanes_outline ..
  · exact Queue.mapLanes_outline ..

@[simp] theorem resetNotConnected_outline (q : Queue) : (resetNotConnected q).2.outline = q.outline :=
  Queue.mapLanes_outline ..

end Producer

end RecordExchange
