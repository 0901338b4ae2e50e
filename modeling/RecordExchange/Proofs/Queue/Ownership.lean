import RecordExchange.Proofs.Queue.Visits

set_option autoImplicit false

/-!
Whose name the latch of a slot carries.

The latch names the process that is attached to the slot, until the slot is done. Producers and
readers keep to that whatever they do, and so do sessions that bind. A session that gives its claim
up does so for the slot of its own node, but not for slots that nobody was given; and one that
reports a reader's end leaves the reader's name where it is.
-/

namespace RecordExchange

namespace Lane

variable {l m n : Lane}

/-- Whom the latch is to name: the process attached to the slot, until the slot is done. -/
def reader (l : Lane) : ProcessId := if l.slot.status = .done then 0 else l.slot.pid

theorem reader_of_done (done : l.slot.status = .done) : l.reader = 0 := if_pos done

theorem reader_of_undone (undone : l.slot.status ≠ .done) : l.reader = l.slot.pid := if_neg undone

/-- The slot stays with its process, and a latch that names whom it is to name still does. Nothing
becomes of the name at a slot that is done. -/
structure KeepsReader (before after : Lane) : Prop where
  pid : after.slot.pid = before.slot.pid
  named : before.latch.owner = before.reader → after.latch.owner = after.reader
  done : before.slot.status = .done →
    after.slot.status = .done ∧ after.latch.owner = before.latch.owner

theorem KeepsReader.refl (l : Lane) : l.KeepsReader l := ⟨rfl, id, fun done => ⟨done, rfl⟩⟩

theorem KeepsReader.trans (first : l.KeepsReader m) (second : m.KeepsReader n) :
    l.KeepsReader n := by
  refine ⟨second.pid.trans first.pid, second.named ∘ first.named, fun done => ?_⟩
  obtain ⟨still, owner⟩ := first.done done
  obtain ⟨after, owner'⟩ := second.done still
  exact ⟨after, owner'.trans owner⟩

/-- Work that is not the end of a slot leaves the name alone. -/
theorem KeepsReader.of_owner (pid : m.slot.pid = l.slot.pid) (owner : m.latch.owner = l.latch.owner)
    (status : m.slot.status = .done ↔ l.slot.status = .done) : l.KeepsReader m := by
  refine ⟨pid, fun named => ?_, fun done => ⟨status.mpr done, owner⟩⟩
  rw [owner, named, reader, reader, pid]
  simp only [status]

theorem KeepsReader.of_closing (pid : m.slot.pid = l.slot.pid) (undone : l.slot.status ≠ .done)
    (done : m.slot.status = .done) (owner : l.latch.owner = l.slot.pid → m.latch.owner = 0) :
    l.KeepsReader m := by
  refine ⟨pid, fun named => ?_, fun already => absurd already undone⟩
  rw [reader_of_done done]
  exact owner (named.trans (reader_of_undone undone))

/-- The slot is closed by those it was given to, who leave nobody there. -/
structure LetsGo (before after : Lane) : Prop where
  undone : before.slot.status ≠ .done
  done : after.slot.status = .done
  pid : after.slot.pid = 0
  owner : after.latch.owner = 0

/-- The slot is closed beside its reader: the process stays attached, and its name on the latch. -/
structure ShutsOut (before after : Lane) : Prop where
  done : after.slot.status = .done
  pid : after.slot.pid = before.slot.pid
  owner : after.latch.owner = before.latch.owner

theorem ShutsOut.keepsReader (shut : l.ShutsOut m)
    (mild : l.slot.status = .done ∨ l.slot.pid = 0) : l.KeepsReader m := by
  by_cases done : l.slot.status = .done
  · exact .of_owner shut.pid shut.owner (iff_of_true shut.done done)
  · have free := mild.resolve_left done
    exact .of_closing shut.pid done shut.done fun owner => shut.owner.trans (owner.trans free)

theorem owner_blind : Blind fun l => l.latch.owner := ⟨fun _ _ => rfl, fun _ _ => rfl, fun _ => rfl⟩

theorem keepsReader_obeys : Producer.Obeys KeepsReader where
  refl := KeepsReader.refl
  trans := KeepsReader.trans
  writes o limit record := by
    refine .of_owner (congrArg Session.pid (o.write_holder limit record))
      (Outlet.write_blind owner_blind o limit record) ?_
    rw [o.write_status limit record]
  finishes o := by
    have pid := congrArg Session.pid o.finish_holder
    rcases Outlet.finish_blind owner_blind o with ⟨owner, status⟩ | ⟨active, eof, lane, owner, made⟩
    · refine .of_owner pid owner ?_
      rw [status]
    · refine .of_owner pid ?_ ?_
      · rw [made]
        exact owner
      · rw [eof, active]
        exact ⟨nofun, nofun⟩
  fails unfinished := by
    refine .of_owner rfl rfl ⟨nofun, fun done => ?_⟩
    rcases unfinished with active | failed
    · cases active.symm.trans done
    · cases failed.symm.trans done
  givesUp {l} unattached := by
    simp only [Producer.isUnattached, Bool.and_eq_true, beq_iff_eq, bne_iff_ne] at unattached
    obtain ⟨free, undone⟩ := unattached
    exact .of_closing rfl undone rfl fun owner => owner.trans free
  sweeps failed l := by
    unfold Producer.sweepLane
    split
    · split
      · rename_i active
        refine .of_owner rfl rfl ⟨nofun, fun done => ?_⟩
        cases active.symm.trans done
      · exact .refl l
    · split
      · exact .of_owner rfl rfl Iff.rfl
      · exact .refl l

end Lane

namespace Consumer

variable {c : Consumer} {q : Queue}

theorem readStep_keepsReader (wired : q.Wired) (canWait : Bool) (point : ReadPoint) :
    q.Lanewise Lane.KeepsReader (c.readStep canWait point q).1 := by
  intro i inside
  by_cases same : c.index = i
  · subst same
    cases readStep_works c canWait point q with
    | stays result made =>
      rw [made]
      exact .refl _
    | takes lane rows status result made holder latch =>
      rw [made, wired.lane_setLane inside]
      refine .of_owner (congrArg Session.pid holder) (congrArg Latch.owner latch) ?_
      rw [status]
    | sleeps lane rows status next made holder latch =>
      rw [made, sleep, Queue.wakeProducer_lane, wired.lane_setLane inside]
      have owner : lane.latch.owner = (q.lane c.index).latch.owner := congrArg Latch.owner latch
      refine .of_owner (congrArg Session.pid holder) owner ?_
      change lane.slot.status = .done ↔ _
      rw [status]
    | closes ended spent lane rows result made holder ring undone done latch =>
      rw [made, Queue.wakeProducer_lane, wired.lane_setLane inside]
      exact .of_closing (congrArg Session.pid holder) undone done
        fun _ => congrArg Latch.owner latch
  · rw [(c.readStep_frame canWait point q).others i same]
    exact .refl _

theorem reset_keepsReader (wired : q.Wired) : q.Lanewise Lane.KeepsReader (c.reset q).1 := by
  intro i inside
  by_cases same : c.index = i
  · subst same
    simp only [reset]
    split
    · exact .refl _
    · rename_i undone
      rw [Queue.wakeProducer_lane, wired.lane_setLane inside]
      split
      · exact .of_closing rfl undone rfl fun _ => rfl
      · rename_i nobody
        exact .of_closing rfl undone rfl fun owner => owner.trans (Nat.eq_zero_of_not_pos nobody)
  · rw [(c.reset_frame q).2.1 i same]
    exact .refl _

end Consumer

theorem Lane.keepsReader_readers : Queue.ReadersObey Lane.KeepsReader where
  refl := Lane.KeepsReader.refl
  reads wired _ canWait point := Consumer.readStep_keepsReader wired canWait point
  leaves wired _ := Consumer.reset_keepsReader wired

namespace Queue

variable {q : Queue} {session : Session} {i : Nat}

section Binding

theorem mapConsumers_sync (q : Queue) (own : NodeId) (consumerNodes nodes : List NodeId) :
    (q.mapConsumers own consumerNodes nodes).1.sync = q.sync := by
  induction nodes generalizing q with
  | nil => rfl
  | cons node rest ih =>
    have first : (q.mapNode own consumerNodes node).1.sync = q.sync := by
      rcases q.mapNode_cases own consumerNodes node with ⟨same, -⟩ | ⟨j, -, -, -, made⟩
      · rw [same]
      · rw [made]
        exact setLane_sync rfl
    rw [mapConsumers_cons]
    exact (ih (q.mapNode own consumerNodes node).1).trans first

/-- A new producer puts its name on its own latch only. -/
theorem bindProducer_sync (q : Queue) (session : Session) (consumerNodes nodes : List NodeId) :
    (q.bindProducer session consumerNodes nodes).1.sync =
      { q.sync with producer := q.sync.producer.own session.pid } :=
  mapConsumers_sync _ session.node consumerNodes nodes

theorem bindProducer_keepsReader (q : Queue) (session : Session)
    (consumerNodes nodes : List NodeId) :
    q.Lanewise Lane.KeepsReader (q.bindProducer session consumerNodes nodes).1 := by
  intro i _
  obtain ⟨given, slot⟩ := bindProducer_slot q session consumerNodes nodes i
  have latch : ((q.bindProducer session consumerNodes nodes).1.lane i).latch = (q.lane i).latch := by
    simp only [lane, bindProducer_sync]
  refine .of_owner ?_ (congrArg Latch.owner latch) ?_
  · rw [slot]
  · rw [slot]

/-- A consumer is let in to a slot that is not done and that nobody is attached to; it attaches, and
puts its name on the latch. -/
theorem bindConsumer_attaches (wired : q.Wired) {name : String}
    (bound : (q.bindConsumer session name).2 = .ok i) :
    (q.lane i).slot.pid = 0 ∧ (q.lane i).slot.status ≠ .done ∧
      (q.bindConsumer session name).1.lane i =
        ⟨{ (q.lane i).slot with pid := session.pid }, (q.lane i).latch.own session.pid⟩ := by
  cases q.bindConsumer_admits session name with
  | refuses cause made =>
    rw [made] at bound
    cases bound
  | closes j inside closed cause made =>
    rw [made] at bound
    cases bound
  | attaches j inside free opened made =>
    rw [made] at bound ⊢
    obtain rfl := Except.ok.inj bound
    exact ⟨free, fun done => Slot.not_isOpen_of_done done opened, wired.lane_setLane inside _⟩

theorem bindConsumer_keepsReader (wired : q.Wired) {name : String}
    (elsewhere : (q.bindConsumer session name).2 ≠ .ok i) :
    (q.lane i).KeepsReader ((q.bindConsumer session name).1.lane i) := by
  cases q.bindConsumer_admits session name with
  | refuses cause made =>
    rw [made]
    exact .refl _
  | closes j inside closed cause made found free =>
    rw [made, wakeProducer_lane]
    by_cases same : j = i
    · subst same
      rw [wired.lane_setLane inside]
      by_cases done : (q.lane j).slot.status = .done
      · exact .of_owner rfl rfl (iff_of_true rfl done)
      · exact .of_closing rfl done rfl fun owner => owner.trans free
    · rw [lane_setLane_other q same]
      exact .refl _
  | attaches j inside free opened made =>
    rw [made] at elsewhere ⊢
    rw [lane_setLane_other q fun same => elsewhere (congrArg Except.ok same)]
    exact .refl _

end Binding

section Owner

def owner (q : Queue) : ProcessId := q.sync.producer.owner

@[simp] theorem setLane_owner (q : Queue) (i : Nat) (l : Lane) : (q.setLane i l).owner = q.owner := rfl

@[simp] theorem setLanesFrom_owner (q : Queue) (i : Nat) (lanes : List Lane) :
    (q.setLanesFrom i lanes).owner = q.owner := congrArg Latch.owner (setLanesFrom_producer ..)

@[simp] theorem mapLanes_owner (q : Queue) (f : Lane → Lane) : (q.mapLanes f).owner = q.owner :=
  setLanesFrom_owner ..

@[simp] theorem wakeProducer_owner (q : Queue) : q.wakeProducer.owner = q.owner := rfl

theorem bindConsumer_owner (q : Queue) (session : Session) (name : String) :
    (q.bindConsumer session name).1.owner = q.owner := by
  cases q.bindConsumer_admits session name with
  | refuses cause made => rw [made]
  | closes i inside closed cause made =>
    rw [made]
    rfl
  | attaches i inside free opened made =>
    rw [made]
    rfl

theorem giveUp_owner (q : Queue) (session : Session) : (q.giveUp session).owner = q.owner := by
  simp only [giveUp, releaseConsumer]
  split
  · rfl
  · split
    · split
      · rfl
      · rfl
    · rw [wakeProducer_owner]
      split
      · rw [setLane_owner, mapLanes_owner]
      · rfl

theorem disconnect_owner (q : Queue) (session : Session) : (q.disconnect session).owner = q.owner :=
  mapLanes_owner ..

end Owner

/-- A session that gives its claim up closes a slot that nobody was given: it has no slot of its
own, and is not of the producer's node. -/
structure ClosesSpare (q : Queue) (session : Session) (i : Nat) : Prop where
  producer : q.entry.producerNode ≠ Slot.unassigned
  foreign : q.entry.producerNode ≠ session.node
  none : ∀ j < q.consumers, (q.lane j).slot.node ≠ session.node
  spare : (q.lane i).slot.node = Slot.unassigned

section GivingUp

variable (inside : i < q.consumers)
include inside

theorem giveUp_spare (closes : q.ClosesSpare session i) :
    (q.lane i).ShutsOut ((q.giveUp session).lane i) := by
  have none := slotOf?_eq_none.mpr closes.none
  have seeds : q.giveUp session = q.releaseConsumer session :=
    if_neg (not_or.mpr ⟨closes.producer, closes.foreign⟩)
  rw [seeds, releaseConsumer_seeds none]
  have slot : (q.entry.seed session.node).slots.getD i default =
      q.entry.seedSlot session.node i (q.lane i).slot := by
    have present : i < (q.entry.seed session.node).slots.size :=
      Nat.lt_of_lt_of_eq inside Array.size_mapIdx.symm
    rw [Array.getD_eq_getD_getElem?, Array.getElem?_eq_getElem present, Option.getD_some,
      Entry.getElem_seed _ _ inside, getElem_slots q inside]
  have closed : q.entry.seedSlot session.node i (q.lane i).slot = _ :=
    if_neg (not_not.mpr closes.spare)
  refine ⟨?_, ?_, rfl⟩
  · change ((q.entry.seed session.node).slots.getD i default).status = .done
    rw [slot, closed]
  · change ((q.entry.seed session.node).slots.getD i default).pid = (q.lane i).slot.pid
    rw [slot, closed]

/-- It leaves all others as they are, but closes the slot of its own node. -/
theorem giveUp_other (wired : q.Wired) (other : ¬ q.ClosesSpare session i) :
    (q.giveUp session).lane i = q.lane i ∨ (q.lane i).LetsGo ((q.giveUp session).lane i) := by
  rw [giveUp]
  split
  · exact .inl rfl
  · rename_i bound
    obtain ⟨producer, foreign⟩ := not_or.mp bound
    cases own : q.slotOf? session.node with
    | some j =>
      simp only [releaseConsumer, own]
      split
      · exact .inl rfl
      · rename_i attached
        rw [wakeProducer_lane]
        by_cases same : j = i
        · subst same
          rw [wired.lane_setLane inside]
          exact .inr ⟨(not_or.mp attached).2, rfl, rfl, rfl⟩
        · rw [lane_setLane_other q same]
          exact .inl rfl
    | none =>
      have assigned : (q.lane i).slot.node ≠ Slot.unassigned := fun spare =>
        other ⟨producer, foreign, slotOf?_eq_none.mp own, spare⟩
      exact .inl (releaseConsumer_foreign wired inside (slotOf?_eq_none.mp own i inside) assigned)

end GivingUp

end Queue

/-! What bound parties do between two locks leaves the producer's name on its latch. -/

namespace Producer

theorem write_owner (p : Producer) (limit : Nat) (q : Queue) (i : Nat) (record : Record) :
    (p.write limit q i record).2.1.owner = q.owner := by
  simp only [write]
  split
  · rfl
  · split
    · rfl
    · rfl

theorem finish_owner (p : Producer) (q : Queue) : (p.finish q).2.1.owner = q.owner :=
  congrArg Latch.owner (finish_latch p q)

theorem canPause_owner (q : Queue) : (canPause q).2.owner = q.owner := by
  simp only [canPause]
  split
  · rfl
  · rfl

theorem reset_owner (p : Producer) (q : Queue) : (p.reset q).2.owner = q.owner := by
  simp only [reset]
  split
  · rw [Queue.wakeProducer_owner, Queue.mapLanes_owner]
  · exact Queue.mapLanes_owner ..

theorem resetNotConnected_owner (q : Queue) : (resetNotConnected q).2.owner = q.owner :=
  Queue.mapLanes_owner ..

end Producer

namespace Consumer

theorem readStep_owner (c : Consumer) (canWait : Bool) (point : ReadPoint) (q : Queue) :
    (c.readStep canWait point q).1.owner = q.owner := by
  cases c.readStep_works canWait point q with
  | stays result made => rw [made]
  | takes lane rows status result made =>
    rw [made]
    rfl
  | sleeps lane rows status next made =>
    rw [made]
    rfl
  | closes ended spent lane rows result made =>
    rw [made]
    rfl

theorem reset_owner (c : Consumer) (q : Queue) : (c.reset q).1.owner = q.owner := by
  rw [reset]
  split
  · rfl
  · rfl

end Consumer

end RecordExchange
