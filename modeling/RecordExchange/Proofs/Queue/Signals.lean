import RecordExchange.Binding
import RecordExchange.Proofs.Queue.Lanewise
import RecordExchange.Proofs.Queue.Outline
import RecordExchange.Proofs.Reading

set_option autoImplicit false

/-!
What a sleeping reader is told.

A reader sleeps until its latch is set, and what it waits for is a complete row or an end of its
slot's activity. Everything a producer does to a lane sets the latch whenever it brings about one of
these, and otherwise leaves the latch as it found it, or set. Everybody else signals no reader:
whoever else brings such a thing about leaves the latch as it is.
-/

namespace RecordExchange

namespace Lane

/-- Something happened that a reader asleep on the lane waits for: there is a complete row where
there was none, or the slot is not active any more. -/
def Stirs (before after : Lane) : Prop :=
  before.slot.ring.rows = 0 ∧ after.slot.ring.rows ≠ 0 ∨
    before.slot.status = .active ∧ after.slot.status ≠ .active

instance (before after : Lane) : Decidable (before.Stirs after) :=
  inferInstanceAs (Decidable (_ ∨ _))

/-- The latch is set, or nothing happened that a sleeping reader waits for. -/
inductive Tells (before after : Lane) : Prop
  | signals (set : after.latch.isSet = true)
  | still (latch : after.latch.isSet = before.latch.isSet)
      (rows : before.slot.ring.rows = 0 → after.slot.ring.rows = 0)
      (status : before.slot.status = .active → after.slot.status = .active)

/-- If something happened that a sleeping reader waits for, its latch is as it was. -/
def Mute (before after : Lane) : Prop :=
  before.Stirs after → after.latch.isSet = before.latch.isSet

variable {l m n : Lane}

theorem Mute.of_latch (same : m.latch.isSet = l.latch.isSet) : l.Mute m := fun _ => same

theorem Mute.of_still (rows : l.slot.ring.rows = 0 → m.slot.ring.rows = 0)
    (status : l.slot.status = .active → m.slot.status = .active) : l.Mute m := by
  intro stirs
  rcases stirs with ⟨none, some⟩ | ⟨active, ended⟩
  · exact absurd (rows none) some
  · exact absurd (status active) ended

theorem Mute.of_alike (alike : l.slot.Alike m.slot) : l.Mute m :=
  .of_still (fun none => by rw [alike.ring]; exact none) (fun active => alike.status.trans active)

theorem Tells.refl (l : Lane) : l.Tells l := .still rfl id id

theorem Tells.trans (first : l.Tells m) (second : m.Tells n) : l.Tells n := by
  cases second with
  | signals set => exact .signals set
  | still latch rows status =>
    cases first with
    | signals set => exact .signals (latch.trans set)
    | still latch' rows' status' =>
      exact .still (latch.trans latch') (rows ∘ rows') (status ∘ status')

theorem Tells.isSet (tells : l.Tells m) (stirs : l.Stirs m) : m.latch.isSet = true := by
  cases tells with
  | signals set => exact set
  | still latch rows status =>
    rcases stirs with ⟨none, some⟩ | ⟨active, ended⟩
    · exact absurd (rows none) some
    · exact absurd (status active) ended

theorem wake_tells (l m : Lane) : l.Tells m.wake := .signals rfl

/-- A reader may only be asleep on a buffer without rows, so pushing behind a row need not wake
it. -/
theorem push_tells (l : Lane) (record : Record) : l.Tells (l.push record) := by
  have rows : ((l.slot.ring.put (LengthWord.encode record.length)).put record).rows =
      l.slot.ring.rows := rfl
  simp only [push, Ring.push, Ring.addRow, rows]
  split
  · exact wake_tells ..
  · rename_i some
    rw [beq_iff_eq] at some
    exact .still rfl (fun none => absurd none some) id

end Lane

/-- Every stroke of a producer's work tells the readers what they wait for. -/
theorem Lane.tells_strokes : Producer.Strokes Lane.Tells where
  refl := Lane.Tells.refl
  trans := Lane.Tells.trans
  counts _ _ := .still rfl id id
  pushes := Lane.push_tells
  sends _ := Lane.wake_tells ..
  wakes _ := Lane.wake_tells ..
  ends _ := Lane.wake_tells ..

theorem Lane.tells_obeys : Producer.Obeys Lane.Tells where
  refl := Lane.Tells.refl
  trans := Lane.Tells.trans
  writes := Lane.tells_strokes.write
  finishes := Lane.tells_strokes.finish
  fails _ := Lane.wake_tells ..
  givesUp _ := Lane.wake_tells ..
  sweeps failed l := by
    rw [Producer.sweepLane]
    split
    · split
      · exact Lane.wake_tells ..
      · exact .refl _
    · split
      · exact Lane.wake_tells ..
      · exact .refl _

/-- No reader of the queue is told anything. -/
def Queue.Mute : Queue → Queue → Prop := Queue.Lanewise Lane.Mute

section Readers

namespace Consumer

variable {c : Consumer} {q : Queue}

theorem reset_latch (wired : q.Wired) (i : Nat) (place : i < q.consumers) :
    ((c.reset q).1.lane i).latch.isSet = (q.lane i).latch.isSet := by
  simp only [reset]
  split
  · rfl
  · rw [Queue.wakeProducer_lane]
    by_cases same : c.index = i
    · subst same
      rw [wired.lane_setLane place]
      split
      · rfl
      · rfl
    · rw [Queue.lane_setLane_other q same]

/-- A reader makes no rows and ends no activity. -/
theorem readStep_mute (canWait : Bool) (point : ReadPoint) :
    q.Mute (c.readStep canWait point q).1 := by
  intro i inside
  by_cases same : c.index = i
  · subst same
    cases readStep_works c canWait point q with
    | stays result made =>
      rw [made]
      exact .of_latch rfl
    | takes lane rows status result made =>
      rw [made]
      refine .of_still (fun none => ?_) (fun active => ?_)
      · rw [Queue.lane_setLane_self inside]
        exact rows none
      · rw [Queue.lane_setLane_self inside]
        exact status.trans active
    | sleeps lane rows status next made =>
      rw [made]
      refine .of_still (fun none => ?_) (fun active => ?_)
      · rw [sleep_slot inside]
        exact rows none
      · rw [sleep_slot inside]
        exact status.trans active
    | closes ended spent lane rows result made =>
      rw [made]
      refine .of_still (fun none => ?_) (fun active => absurd active ended)
      rw [Queue.wakeProducer_lane, Queue.lane_setLane_self inside]
      exact rows none
  · rw [(c.readStep_frame canWait point q).others i same]
    exact .of_latch rfl

theorem reset_mute (wired : q.Wired) : q.Mute (c.reset q).1 :=
  fun i place => .of_latch (reset_latch wired i place)

end Consumer

end Readers

section Registry

namespace Queue

variable {q : Queue}

theorem mapLanes_latch (wired : q.Wired) (f : Lane → Lane)
    (same : ∀ l : Lane, (f l).latch.isSet = l.latch.isSet) (i : Nat) (inside : i < q.consumers) :
    ((q.mapLanes f).lane i).latch.isSet = (q.lane i).latch.isSet := by
  rw [wired.lane_mapLanes inside]
  exact same _

theorem disconnect_mute (wired : q.Wired) (session : Session) : q.Mute (q.disconnect session) := by
  refine fun i inside => .of_latch (mapLanes_latch wired _ (fun l => ?_) i inside)
  split
  · rfl
  · rfl

/-- Closing the slots of a node that gives its claim up signals the producer and no reader. -/
theorem releaseConsumer_mute (wired : q.Wired) (session : Session) :
    q.Mute (q.releaseConsumer session) := by
  intro i inside
  refine .of_latch ?_
  simp only [releaseConsumer]
  split
  · rename_i own _
    split
    · rfl
    · rw [wakeProducer_lane]
      by_cases same : own = i
      · subst same
        rw [wired.lane_setLane inside]
        rfl
      · rw [lane_setLane_other q same]
  · rw [wakeProducer_lane]
    split
    · rename_i first _
      have mapped : (q.mapLanes fun l =>
          if l.slot.node = Slot.unassigned then l.withStatus .done else l).Wired := by
        have outline := congrArg Outline.latches (mapLanes_outline q fun l =>
          if l.slot.node = Slot.unassigned then l.withStatus .done else l)
        rw [Wired, mapLanes_consumers]
        exact Nat.le_trans wired (Nat.le_of_eq outline.symm)
      by_cases same : first = i
      · subst same
        rw [mapped.lane_setLane (by rw [mapLanes_consumers]; exact inside)]
      · rw [lane_setLane_other _ same]
        refine mapLanes_latch wired _ (fun l => ?_) i inside
        split
        · rfl
        · rfl
    · rfl

theorem assignSlot_slot (q : Queue) (node : NodeId) (i : Nat) :
    ∃ given, ((q.assignSlot node).1.lane i).slot = { (q.lane i).slot with node := given } := by
  simp only [assignSlot]
  split
  · exact ⟨_, rfl⟩
  · rename_i first found
    split
    · exact ⟨_, rfl⟩
    · by_cases same : first = i
      · subst same
        rw [lane_setLane_self (List.mem_range.mp (List.mem_of_find?_eq_some found))]
        exact ⟨_, rfl⟩
      · rw [lane_setLane_other q same]
        exact ⟨_, rfl⟩

theorem mapConsumers_slot (q : Queue) (own : NodeId) (consumerNodes nodes : List NodeId) (i : Nat) :
    ∃ given, ((q.mapConsumers own consumerNodes nodes).1.lane i).slot =
      { (q.lane i).slot with node := given } := by
  induction nodes generalizing q with
  | nil => exact ⟨_, rfl⟩
  | cons node rest ih =>
    simp only [mapConsumers]
    split
    · exact ih q
    · split
      · obtain ⟨given, later⟩ := ih (q.assignSlot node).1
        obtain ⟨before, first⟩ := assignSlot_slot q node i
        exact ⟨given, by rw [later, first]⟩
      · exact ih q

theorem bindProducer_slot (q : Queue) (session : Session) (consumerNodes nodes : List NodeId)
    (i : Nat) :
    ∃ given, ((q.bindProducer session consumerNodes nodes).1.lane i).slot =
      { (q.lane i).slot with node := given } := by
  let taken : Queue := { q with
    entry := { q.entry with producerPid := session.pid, producerNode := session.node } }
  exact mapConsumers_slot (taken.onProducerLatch (·.own session.pid)) session.node consumerNodes
    nodes i

theorem bindProducer_alike (q : Queue) (session : Session) (consumerNodes nodes : List NodeId)
    (i : Nat) :
    (q.lane i).slot.Alike ((q.bindProducer session consumerNodes nodes).1.lane i).slot := by
  obtain ⟨given, slot⟩ := bindProducer_slot q session consumerNodes nodes i
  rw [slot]
  exact ⟨rfl, rfl⟩

theorem bindProducer_mute (q : Queue) (session : Session) (consumerNodes nodes : List NodeId) :
    q.Mute (q.bindProducer session consumerNodes nodes).1 := by
  intro i _
  exact .of_alike (bindProducer_alike q session consumerNodes nodes i)

/-- A consumer that binds to a slot which failed before marks it done; that is no news for a
reader. -/
theorem bindConsumer_mute (q : Queue) (session : Session) (name : String) :
    q.Mute (q.bindConsumer session name).1 := by
  intro i _
  cases q.bindConsumer_admits session name with
  | refuses cause made =>
    rw [made]
    exact .of_latch rfl
  | closes own inside closed cause made =>
    rw [made, wakeProducer_lane]
    by_cases same : own = i
    · subst same
      refine .of_still (fun none => ?_) (fun active => absurd (.inl active) closed)
      rw [lane_setLane_self inside]
      exact none
    · rw [lane_setLane_other q same]
      exact .of_latch rfl
  | attaches own inside free opened made =>
    rw [made]
    by_cases same : own = i
    · subst same
      refine .of_alike ⟨?_, ?_⟩
      · rw [lane_setLane_self inside]
      · rw [lane_setLane_self inside]
    · rw [lane_setLane_other q same]
      exact .of_latch rfl

end Queue

end Registry

/-- Whoever is not the queue's producer signals no reader. -/
theorem Lane.mute_obeys : Queue.OthersObey Lane.Mute where
  refl _ := .of_latch rfl
  takesUp := Queue.bindProducer_mute
  attaches := Queue.bindConsumer_mute
  releases := Queue.releaseConsumer_mute
  disconnects := Queue.disconnect_mute
  reads _ _ canWait point := Consumer.readStep_mute canWait point
  leaves wired _ := Consumer.reset_mute wired

end RecordExchange
