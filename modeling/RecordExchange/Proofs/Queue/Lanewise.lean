import RecordExchange.Binding
import RecordExchange.Proofs.Queue.Outlets
import RecordExchange.Proofs.Queue.Unbinding
import RecordExchange.Registry

set_option autoImplicit false

/-!
The work on a queue, seen from one lane.

Every call of a producer comes down to pieces of work on single lanes: a record written for a slot,
an outlet finished, a slot failed, given up or swept. A relation between a lane before and a lane
after that all these pieces obey is obeyed by every lane in every call. What everybody else does to
a queue is one piece of work each. Writing and finishing come down further, to single strokes: one
record or chunk put into a buffer, one counter moved, one signal.
-/

namespace RecordExchange

/-- Every lane of the queue changes as `R` says. -/
def Queue.Lanewise (R : Lane → Lane → Prop) (before after : Queue) : Prop :=
  ∀ i, i < before.consumers → R (before.lane i) (after.lane i)

theorem Outlet.dump_lane (o : Outlet) (store : OverflowStore) :
    (o.dump store).1.lane = (o.lane.dump store).1 := by
  rw [dump]
  split
  · rename_i moved
    rw [moved]
  · rename_i moved
    rw [moved]

namespace Producer

/-- The single strokes that writing and finishing are made of obey `R`, and so do two of them behind
each other. -/
structure Strokes (R : Lane → Lane → Prop) : Prop where
  refl (l : Lane) : R l l
  trans {l m n : Lane} (first : R l m) (second : R m n) : R l n
  counts (l : Lane) (more : Traffic → Traffic) : R l (l.count more)
  pushes (l : Lane) (record : Record) : R l (l.push record)
  /-- A chunk of a long record goes into the buffer. -/
  sends {l : Lane} {record : Record} {ring : Ring} {last : Bool}
    (sent : l.slot.ring.pushLong record = .ok (ring, last)) : R l (l.withRing ring).wake
  wakes (l : Lane) : R l l.wake
  /-- The end of the data is announced. -/
  ends (l : Lane) : R l (l.withStatus .eof).wake

section Strokes

variable {R : Lane → Lane → Prop} (strokes : Strokes R)
include strokes

theorem Strokes.dump (l : Lane) (store : OverflowStore) : R l (l.dump store).1 := by
  have looked (l : Lane) : R l l.countOverflowRead := by
    rw [Lane.countOverflowRead]
    exact strokes.counts ..
  have returned (l : Lane) : R l l.countOverflowReturn := by
    rw [Lane.countOverflowReturn]
    exact strokes.counts ..
  fun_induction Lane.dump l store with
  | case1 => exact strokes.refl _
  | case2 l store record _ counted _ ih =>
    exact strokes.trans (strokes.trans (looked l) (strokes.pushes counted record)) ih
  | case3 l => exact looked l
  | case4 l store record _ counted _ _ ring sent ih =>
    exact strokes.trans (strokes.trans (looked l) (strokes.sends sent)) ih
  | case5 l store record _ counted _ _ ring sent =>
    exact strokes.trans (strokes.trans (looked l) (strokes.sends sent)) (returned _)
  | case6 l store record _ counted => exact strokes.trans (looked l) (returned counted)

theorem Strokes.dumped {o moved : Outlet} {store : OverflowStore} {result : Except Error Bool}
    (dumped : o.dump store = (moved, result)) : R o.lane moved.lane := by
  have lane := o.dump_lane store
  rw [dumped] at lane
  rw [show moved.lane = (o.lane.dump store).1 from lane]
  exact strokes.dump ..

theorem Strokes.hold (o : Outlet) (limit : Nat) (record : Record) :
    R o.lane (o.hold limit record).lane := by
  change R o.lane o.lane.countOverflowWrite
  rw [Lane.countOverflowWrite]
  exact strokes.counts ..

theorem Strokes.send (o : Outlet) (limit : Nat) (record : Record) :
    R o.lane (o.send limit record).lane := by
  rw [Outlet.send]
  split
  · exact strokes.pushes ..
  · exact strokes.hold ..

theorem Strokes.write (o : Outlet) (limit : Nat) (record : Record) :
    R o.lane (o.write limit record).1.lane := by
  have counted : R o.lane o.lane.countWrite := by
    rw [Lane.countWrite]
    exact strokes.counts ..
  simp only [Outlet.write]
  split
  · exact counted
  · split
    · exact strokes.trans counted (strokes.send ⟨o.lane.countWrite, o.held⟩ limit record)
    · split
      · split
        · rename_i dumped
          exact strokes.trans counted (strokes.dumped dumped)
        · rename_i dumped
          exact strokes.trans (strokes.trans counted (strokes.dumped dumped)) (strokes.send ..)
        · rename_i dumped
          exact strokes.trans (strokes.trans counted (strokes.dumped dumped)) (strokes.hold ..)
      · exact strokes.trans counted (strokes.hold ⟨o.lane.countWrite, o.held⟩ limit record)

theorem Strokes.finish (o : Outlet) : R o.lane o.finish.1.lane := by
  rw [Outlet.finish]
  split
  · split
    · exact strokes.ends _
    · exact strokes.refl _
  · split
    · exact strokes.refl _
    · split
      · split
        · rename_i dumped
          exact strokes.dumped dumped
        · rename_i dumped
          exact strokes.trans (strokes.dumped dumped) (strokes.ends _)
        · rename_i dumped
          exact strokes.trans (strokes.dumped dumped) (strokes.wakes _)
      · exact strokes.refl _

end Strokes

/-- The pieces of work of a producer obey `R`, and so do two of them behind each other. -/
structure Obeys (R : Lane → Lane → Prop) : Prop where
  refl (l : Lane) : R l l
  trans {l m n : Lane} (first : R l m) (second : R m n) : R l n
  writes (o : Outlet) (limit : Nat) (record : Record) : R o.lane (o.write limit record).1.lane
  finishes (o : Outlet) : R o.lane o.finish.1.lane
  fails {l : Lane} (unfinished : l.slot.status = .active ∨ l.slot.status = .error) :
    R l (l.withStatus .error).discard.wake
  givesUp {l : Lane} (unattached : isUnattached l = true) : R l (l.withStatus .done).discard.wake
  sweeps (failed : Bool) (l : Lane) : R l (sweepLane failed l)

variable {R : Lane → Lane → Prop} {q : Queue}

/-- What goes for the outlet that a record is written for goes for all lanes. -/
theorem Obeys.write (obeys : Obeys R) (wired : q.Wired) (p : Producer) (limit : Nat) (i : Nat)
    (record : Record) : q.Lanewise R (p.write limit q i record).2.1 := by
  intro j inside
  rw [Producer.write]
  split
  · exact obeys.refl _
  · split
    · exact obeys.refl _
    · change R (q.lane j) ((q.setLane i ((p.outlet q i).write limit record).1.lane).lane j)
      by_cases same : i = j
      · subst same
        rw [wired.lane_setLane inside]
        exact obeys.writes (p.outlet q i) limit record
      · rw [Queue.lane_setLane_other q same]
        exact obeys.refl _

theorem Obeys.finish (obeys : Obeys R) (wired : q.Wired) (p : Producer) :
    q.Lanewise R (p.finish q).2.1 := by
  intro i inside
  let finished := (Outlet.finishAll (p.outlets q)).1
  have length : finished.length = q.consumers := by
    rw [Outlet.finishAll_length, outlets_length]
  have there : i < (p.outlets q).length := by
    rw [outlets_length]
    exact inside
  have put := wired.lane_setLanesFrom (i := 0) (finished.map (·.lane)) i
    (by rw [List.length_map]; omega) (by rw [List.length_map]; omega)
  rw [Nat.zero_add, List.getElem_map] at put
  have kept : i < finished.length := by omega
  have lane : (p.finish q).2.1.lane i = finished[i].lane := by
    change ((p.setOutletsFrom q 0 finished).2).lane i = _
    rw [setOutletsFrom_queue, put]
  have worked := Outlet.finishAll_getElem (p.outlets q) i there
  have before : (p.outlets q)[i] = p.outlet q i := by
    simp only [outlets, List.getElem_map, List.getElem_range]
  rw [before, List.getElem?_eq_getElem kept] at worked
  rw [lane]
  rcases worked with untouched | done
  · rw [Option.some_inj.mp untouched]
    exact obeys.refl _
  · rw [Option.some_inj.mp done]
    exact obeys.finishes (p.outlet q i)

theorem drainStep_queue (p : Producer) (q : Queue) :
    (p.drainStep q).2.1 = (p.finish q).2.1 := by
  rw [drainStep]
  split
  · rename_i passed
    rw [passed]
  · rename_i passed
    rw [passed]
  · rename_i passed
    rw [passed]

theorem Obeys.canPause (obeys : Obeys R) (q : Queue) : q.Lanewise R (canPause q).2 := by
  intro i inside
  rw [Producer.canPause]
  split
  · exact obeys.refl _
  · exact obeys.refl _

theorem Obeys.reset (obeys : Obeys R) (wired : q.Wired) (p : Producer) :
    q.Lanewise R (p.reset q).2 := by
  intro i inside
  have woken (failing : Bool) (after : Queue) :
      (if failing then after.wakeProducer else after).lane i = after.lane i := by
    cases failing <;> rfl
  simp only [Producer.reset, woken]
  rw [wired.lane_mapLanes inside]
  cases status : (q.lane i).slot.status with
  | active => exact obeys.fails (.inl status)
  | error => exact obeys.fails (.inr status)
  | eof => exact obeys.refl _
  | done => exact obeys.refl _

theorem Obeys.resetNotConnected (obeys : Obeys R) (wired : q.Wired) :
    q.Lanewise R (resetNotConnected q).2 := by
  intro i inside
  simp only [Producer.resetNotConnected]
  rw [wired.lane_mapLanes inside]
  split
  · rename_i unattached
    exact obeys.givesUp unattached
  · exact obeys.refl _

theorem Obeys.sweep (obeys : Obeys R) (wired : q.Wired) (failed : Bool) :
    q.Lanewise R (q.mapLanes (sweepLane failed)) := by
  intro i inside
  rw [wired.lane_mapLanes inside]
  exact obeys.sweeps failed _

end Producer

namespace Queue

/-- What sessions do that bind, give a claim up or report a reader's end obeys `R`. -/
structure SessionsObey (R : Lane → Lane → Prop) : Prop where
  refl (l : Lane) : R l l
  takesUp (q : Queue) (session : Session) (consumerNodes nodes : List NodeId) :
    q.Lanewise R (q.bindProducer session consumerNodes nodes).1
  attaches (q : Queue) (session : Session) (name : String) :
    q.Lanewise R (q.bindConsumer session name).1
  releases {q : Queue} (wired : q.Wired) (session : Session) :
    q.Lanewise R (q.releaseConsumer session)
  disconnects {q : Queue} (wired : q.Wired) (session : Session) :
    q.Lanewise R (q.disconnect session)

variable {R S : Lane → Lane → Prop}

theorem SessionsObey.imp (obey : SessionsObey R) (weaker : ∀ {l m : Lane}, R l m → S l m) :
    SessionsObey S where
  refl l := weaker (obey.refl l)
  takesUp q session consumerNodes nodes i inside :=
    weaker (obey.takesUp q session consumerNodes nodes i inside)
  attaches q session name i inside := weaker (obey.attaches q session name i inside)
  releases wired session i inside := weaker (obey.releases wired session i inside)
  disconnects wired session i inside := weaker (obey.disconnects wired session i inside)

/-- What readers do obeys `R`. -/
structure ReadersObey (R : Lane → Lane → Prop) : Prop where
  refl (l : Lane) : R l l
  reads {q : Queue} (wired : q.Wired) (c : Consumer) (canWait : Bool) (point : ReadPoint) :
    q.Lanewise R (c.readStep canWait point q).1
  leaves {q : Queue} (wired : q.Wired) (c : Consumer) : q.Lanewise R (c.reset q).1

theorem ReadersObey.drop (obey : ReadersObey R) {q : Queue} (wired : q.Wired)
    (c : Consumer) : q.Lanewise R (c.drop q) := by
  unfold Consumer.drop
  split
  · exact fun _ _ => obey.refl _
  · exact obey.leaves wired c

/-- The work of everybody but the producer obeys `R`: of the sessions and of the readers. -/
structure OthersObey (R : Lane → Lane → Prop) : Prop extends SessionsObey R, ReadersObey R

end Queue

end RecordExchange
