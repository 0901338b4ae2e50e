import RecordExchange.Proofs.Queue.Lifecycle

set_option autoImplicit false

/-!
Who holds a slot.

A slot that a process attached to is held until it is done; nobody attaches to a slot that is held
or done. What passes through a slot has no part in this.
-/

namespace RecordExchange

/-- Somebody attached to the slot, or nobody will any more. -/
def Slot.Attended (s : Slot) : Prop := s.pid ≠ 0 ∨ s.status = .done

namespace Lane

variable {l m : Lane}

/-- A slot that is attended stays attended. -/
def Attends (before after : Lane) : Prop := before.slot.Attended → after.slot.Attended

theorem Attends.of_holder (holder : m.slot.holder = l.slot.holder) (proceeds : l.Proceeds m) :
    l.Attends m := by
  intro attended
  have pid : m.slot.pid = l.slot.pid := congrArg Session.pid holder
  rcases attended with held | done
  · left
    rw [pid]
    exact held
  · exact .inr (proceeds.done_of_done done)

theorem Attends.of_done (done : m.slot.status = .done) : l.Attends m := fun _ => .inr done

/-- What `f` sees of a lane does not change while records are counted and moved into its buffer and
its consumer is woken. -/
structure Blind {α : Type} (f : Lane → α) : Prop where
  counts (l : Lane) (more : Traffic → Traffic) : f (l.count more) = f l
  refills (l : Lane) (ring : Ring) : f (l.withRing ring) = f l
  wakes (l : Lane) : f l.wake = f l

section Blind

variable {α : Type} {f : Lane → α} (blind : Blind f)
include blind

theorem Blind.push (l : Lane) (record : Record) : f (l.push record) = f l := by
  simp only [Lane.push]
  split
  · rw [blind.wakes, blind.refills]
  · rw [blind.refills]

theorem Blind.dump (l : Lane) (store : OverflowStore) : f (l.dump store).1 = f l := by
  fun_induction Lane.dump l store with
  | case1 => rfl
  | case2 l store record _ counted _ ih =>
    exact ih.trans ((blind.push counted record).trans (blind.counts ..))
  | case3 l =>
    change f l.countOverflowRead = f l
    exact blind.counts ..
  | case4 l store record _ counted _ _ ring _ ih =>
    rw [ih, blind.wakes, blind.refills]
    exact blind.counts ..
  | case5 =>
    rw [countOverflowReturn, blind.counts, blind.wakes, blind.refills]
    exact blind.counts ..
  | case6 =>
    rw [countOverflowReturn, blind.counts]
    exact blind.counts ..

end Blind

theorem holder_blind : Blind fun l => l.slot.holder := ⟨fun _ _ => rfl, fun _ _ => rfl, fun _ => rfl⟩

theorem status_blind : Blind fun l => l.slot.status := ⟨fun _ _ => rfl, fun _ _ => rfl, fun _ => rfl⟩

end Lane

namespace Outlet

section Blind

variable {α : Type} {f : Lane → α} (blind : Lane.Blind f)
include blind

theorem hold_blind (o : Outlet) (limit : Nat) (record : Record) :
    f (o.hold limit record).lane = f o.lane := by
  change f o.lane.countOverflowWrite = f o.lane
  exact blind.counts ..

theorem send_blind (o : Outlet) (limit : Nat) (record : Record) :
    f (o.send limit record).lane = f o.lane := by
  unfold send
  split
  · exact blind.push ..
  · exact hold_blind blind ..

theorem dump_blind (o : Outlet) (store : OverflowStore) :
    f (o.dump store).1.lane = f o.lane := by
  rw [dump_lane]
  exact blind.dump ..

theorem write_blind (o : Outlet) (limit : Nat) (record : Record) :
    f (o.write limit record).1.lane = f o.lane := by
  have counted : f o.lane.countWrite = f o.lane := blind.counts ..
  unfold write
  dsimp only
  split
  · exact counted
  · split
    · exact (send_blind blind ..).trans counted
    · rename_i store _
      have moved := dump_blind blind { o with lane := o.lane.countWrite } store
      split
      · split
        · rename_i dumped
          rw [dumped] at moved
          exact moved.trans counted
        · rename_i dumped
          rw [dumped] at moved
          exact (send_blind blind ..).trans (moved.trans counted)
        · rename_i dumped
          rw [dumped] at moved
          exact (hold_blind blind ..).trans (moved.trans counted)
      · exact (hold_blind blind ..).trans counted

/-- Finishing an outlet announces the end of the data or leaves the status as it is. -/
theorem finish_blind (o : Outlet) :
    f o.finish.1.lane = f o.lane ∧ o.finish.1.lane.slot.status = o.lane.slot.status ∨
      o.lane.slot.status = .active ∧ o.finish.1.lane.slot.status = .eof ∧
        ∃ lane, f lane = f o.lane ∧ o.finish.1.lane = (lane.withStatus .eof).wake := by
  unfold finish
  split
  · split
    · rename_i active
      exact .inr ⟨active, rfl, o.lane, rfl, rfl⟩
    · exact .inl ⟨rfl, rfl⟩
  · rename_i store _
    have moved := dump_blind blind o store
    have status := dump_blind Lane.status_blind o store
    split
    · exact .inl ⟨rfl, rfl⟩
    · rename_i active
      split
      · split
        · rename_i dumped
          rw [dumped] at moved status
          exact .inl ⟨moved, status⟩
        · rename_i dumped
          rw [dumped] at moved
          exact .inr ⟨not_not.mp active, rfl, _, moved, rfl⟩
        · rename_i dumped
          rw [dumped] at moved status
          exact .inl ⟨(blind.wakes _).trans moved, status⟩
      · exact .inl ⟨rfl, rfl⟩

end Blind

theorem write_holder (o : Outlet) (limit : Nat) (record : Record) :
    (o.write limit record).1.lane.slot.holder = o.lane.slot.holder :=
  write_blind Lane.holder_blind o limit record

theorem write_status (o : Outlet) (limit : Nat) (record : Record) :
    (o.write limit record).1.lane.slot.status = o.lane.slot.status :=
  write_blind Lane.status_blind o limit record

/-- Finishing closes no slot. -/
theorem finish_status (o : Outlet) (unfinished : o.lane.slot.status ≠ .done) :
    o.finish.1.lane.slot.status ≠ .done := by
  rcases finish_blind Lane.status_blind o with ⟨-, same⟩ | ⟨-, eof, -⟩
  · rw [same]
    exact unfinished
  · rw [eof]
    exact SlotStatus.noConfusion

theorem finish_holder (o : Outlet) : o.finish.1.lane.slot.holder = o.lane.slot.holder := by
  rcases finish_blind Lane.holder_blind o with ⟨same, -⟩ | ⟨-, -, lane, same, made⟩
  · exact same
  · rw [made]
    exact same

end Outlet

theorem Producer.sweepLane_holder (failed : Bool) (l : Lane) :
    (sweepLane failed l).slot.holder = l.slot.holder := by
  unfold sweepLane
  split
  · split
    · rfl
    · rfl
  · split
    · rfl
    · rfl

theorem Lane.attends_obeys : Producer.Obeys Lane.Attends where
  refl _ := id
  trans first second := second ∘ first
  writes o limit record :=
    .of_holder (Outlet.write_holder o limit record) (Outlet.write_proceeds o limit record)
  finishes o := .of_holder (Outlet.finish_holder o) (Outlet.finish_proceeds o)
  fails unfinished := .of_holder rfl (Lane.proceeds_obeys.fails unfinished)
  givesUp _ := .of_done rfl
  sweeps failed l :=
    .of_holder (Producer.sweepLane_holder failed l) (Lane.proceeds_obeys.sweeps failed l)

namespace Consumer

variable {c : Consumer} {q : Queue}

/-- A step of a read takes no slot from its holder, its own or another. -/
theorem readStep_holder (canWait : Bool) (point : ReadPoint) {i : Nat} (inside : i < q.consumers) :
    ((c.readStep canWait point q).1.lane i).slot.holder = (q.lane i).slot.holder := by
  by_cases same : c.index = i
  · subst same
    cases readStep_works c canWait point q with
    | stays result made => rw [made]
    | takes lane rows status result made holder =>
      rw [made, Queue.lane_setLane_self inside]
      exact holder
    | sleeps lane rows status next made holder =>
      rw [made, sleep_slot inside]
      exact holder
    | closes ended spent lane rows result made holder =>
      rw [made, Queue.wakeProducer_lane, Queue.lane_setLane_self inside]
      exact holder
  · rw [(c.readStep_frame canWait point q).others i same]

theorem reset_holder {i : Nat} (inside : i < q.consumers) :
    ((c.reset q).1.lane i).slot.holder = (q.lane i).slot.holder := by
  by_cases same : c.index = i
  · subst same
    simp only [reset]
    split
    · rfl
    · rw [Queue.wakeProducer_lane, Queue.lane_setLane_self inside]
      split
      · rfl
      · rfl
  · rw [(c.reset_frame q).2.1 i same]

theorem readStep_attends (canWait : Bool) (point : ReadPoint) :
    q.Lanewise Lane.Attends (c.readStep canWait point q).1 := fun i inside =>
  .of_holder (readStep_holder canWait point inside) (readStep_proceeds canWait point i inside)

theorem reset_attends : q.Lanewise Lane.Attends (c.reset q).1 := by
  intro i inside
  exact .of_holder (reset_holder inside) (reset_rests i inside).proceeds

end Consumer

namespace Queue

theorem bindProducer_attends (q : Queue) (session : Session)
    (consumerNodes nodes : List NodeId) :
    q.Lanewise Lane.Attends (q.bindProducer session consumerNodes nodes).1 := by
  intro i _
  obtain ⟨given, slot⟩ := bindProducer_slot q session consumerNodes nodes i
  unfold Lane.Attends
  rw [slot]
  exact id

/-- A consumer attaches to a slot that nobody attends to, if it finds one. -/
theorem bindConsumer_cases (q : Queue) (session : Session) (name : String) :
    (∃ cause, (q.bindConsumer session name).2 = .error cause) ∧
        q.Lanewise Lane.Attends (q.bindConsumer session name).1 ∨
      ∃ i, i < q.consumers ∧ ¬ (q.lane i).slot.Attended ∧
        (q.bindConsumer session name).2 = .ok i ∧
        ((q.bindConsumer session name).1.lane i).slot =
          { (q.lane i).slot with pid := session.pid } ∧
        ∀ j, j ≠ i → (q.bindConsumer session name).1.lane j = q.lane j := by
  cases q.bindConsumer_admits session name with
  | refuses cause made =>
    rw [made]
    exact .inl ⟨⟨cause, rfl⟩, fun _ _ => id⟩
  | closes i inside closed cause made =>
    rw [made]
    refine .inl ⟨⟨cause, rfl⟩, fun j _ => ?_⟩
    rw [wakeProducer_lane]
    by_cases same : i = j
    · subst same
      apply Lane.Attends.of_done
      rw [lane_setLane_self inside]
      rfl
    · rw [lane_setLane_other q same]
      exact id
  | attaches i inside free opened made =>
    rw [made]
    refine .inr ⟨i, inside, ?_, rfl, ?_, fun j other => lane_setLane_other q (Ne.symm other) _⟩
    · intro attended
      rcases attended with held | done
      · exact held free
      · exact Slot.not_isOpen_of_done done opened
    · rw [lane_setLane_self inside]

theorem bindConsumer_attends (q : Queue) (session : Session) (name : String) :
    q.Lanewise Lane.Attends (q.bindConsumer session name).1 := by
  intro j inside
  rcases bindConsumer_cases q session name with
    ⟨-, attends⟩ | ⟨i, -, unattended, -, -, others⟩
  · exact attends j inside
  · by_cases same : j = i
    · subst same
      exact fun attended => absurd attended unattended
    · rw [others j same]
      exact id

theorem releaseConsumer_attends (q : Queue) (session : Session) :
    q.Lanewise Lane.Attends (q.releaseConsumer session) := by
  intro i inside
  unfold Lane.Attends
  rcases releaseConsumer_slot q session inside with same | ⟨done, -⟩
  · rw [same]
    exact id
  · exact fun _ => .inr done

theorem disconnect_holder (q : Queue) (session : Session) {i : Nat} (inside : i < q.consumers) :
    ((q.disconnect session).lane i).slot.holder = (q.lane i).slot.holder := by
  rw [disconnect, wakeProducer_lane, Slot.holder, lane_mapLanes inside]
  split
  · rfl
  · rfl

theorem disconnect_attends (q : Queue) (session : Session) :
    q.Lanewise Lane.Attends (q.disconnect session) := fun i inside =>
  .of_holder (disconnect_holder q session inside) (disconnect_rests q session i inside).proceeds

end Queue

theorem Lane.attends_others : Queue.OthersObey Lane.Attends where
  refl _ := id
  takesUp := Queue.bindProducer_attends
  attaches := Queue.bindConsumer_attends
  releases _ := Queue.releaseConsumer_attends _
  disconnects _ := Queue.disconnect_attends _
  reads _ _ canWait point := Consumer.readStep_attends canWait point
  leaves _ _ := Consumer.reset_attends

end RecordExchange
