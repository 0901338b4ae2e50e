import RecordExchange.Proofs.Queue.Signals
import RecordExchange.Proofs.Ring.Cells

set_option autoImplicit false

/-!
The life of a slot, from the time it is laid out.

A slot is active at first. Its status changes along the arrows of `SlotStatus.Next` only, whoever is
at work on the queue, and from the moment it is not active any more nothing is put into its buffer.
-/

namespace RecordExchange

namespace SlotStatus

/-- The changes of status a slot may undergo. -/
inductive Next : SlotStatus → SlotStatus → Prop
  | finishes : Next .active .eof
  | fails : Next .active .error
  | closes : Next .active .done
  | readOut : Next .eof .done
  | reported : Next .error .done

/-- The ways from activity to the end. -/
def paths : List (List SlotStatus) :=
  [[.active, .eof, .done], [.active, .error, .done], [.active, .done]]

variable {s t u : SlotStatus}

theorem not_next_active : ¬ s.Next .active := by
  intro next
  cases next

theorem not_done_next : ¬ Next .done s := by
  intro next
  cases next

theorem Next.trans (first : s.Next t) (second : t.Next u) : s.Next u := by
  cases first with
  | finishes => cases second; exact .closes
  | fails => cases second; exact .closes
  | closes => exact absurd second not_done_next
  | readOut => exact absurd second not_done_next
  | reported => exact absurd second not_done_next

/-- Statuses that follow each other by single changes, from activity on, are the beginning of one
of the paths. -/
theorem chain_paths {rest : List SlotStatus} (chain : List.IsChain Next (.active :: rest)) :
    ∃ path ∈ paths, .active :: rest <+: path := by
  have stops {more : List SlotStatus} (chain : List.IsChain Next (.done :: more)) : more = [] := by
    cases more with
    | nil => rfl
    | cons t more => exact absurd (List.isChain_cons_cons.mp chain).1 not_done_next
  cases rest with
  | nil => exact ⟨_, List.mem_cons_self, by decide⟩
  | cons s rest =>
    obtain ⟨first, later⟩ := List.isChain_cons_cons.mp chain
    cases first with
    | closes => exact ⟨[.active, .done], by decide, by rw [stops later]⟩
    | finishes =>
      cases rest with
      | nil => exact ⟨[.active, .eof, .done], by decide, by decide⟩
      | cons t rest =>
        obtain ⟨second, last⟩ := List.isChain_cons_cons.mp later
        cases second
        exact ⟨[.active, .eof, .done], by decide, by rw [stops last]⟩
    | fails =>
      cases rest with
      | nil => exact ⟨[.active, .error, .done], by decide, by decide⟩
      | cons t rest =>
        obtain ⟨second, last⟩ := List.isChain_cons_cons.mp later
        cases second
        exact ⟨[.active, .error, .done], by decide, by rw [stops last]⟩

end SlotStatus

namespace Ring

-- comparing buffers must not run through their cells
attribute [local irreducible] Ring.storeFrom Ring.fetchFrom

/-- From `r` to `s` nothing was put into the buffer: no row was added, and the write cursor stands
where it stood, or at the start of a buffer without rows. No cell changed but, in a buffer without
rows, the first few, in which a reader leaves word of a long record. -/
structure Drains (r s : Ring) : Prop where
  size : s.bytes.size = r.bytes.size
  rows : s.rows ≤ r.rows
  write : s.write = r.write ∨ s.write = 0 ∧ s.rows = 0
  word : s.bytes = r.bytes ∨ s.rows = 0
  cells : ∀ cell, LengthWord.size ≤ cell → s.bytes.getD cell 0 = r.bytes.getD cell 0

variable {r s t : Ring}

theorem Drains.refl (r : Ring) : r.Drains r :=
  ⟨rfl, Nat.le_refl _, .inl rfl, .inl rfl, fun _ _ => rfl⟩

theorem Drains.trans (first : r.Drains s) (second : s.Drains t) : r.Drains t := by
  refine ⟨second.size.trans first.size, Nat.le_trans second.rows first.rows, ?_, ?_, ?_⟩
  · rcases second.write with same | start
    · rcases first.write with same' | ⟨start, none⟩
      · exact .inl (same.trans same')
      · have less := second.rows
        exact .inr ⟨same.trans start, by omega⟩
    · exact .inr start
  · rcases second.word with same | none
    · rcases first.word with same' | none
      · exact .inl (same.trans same')
      · have less := second.rows
        exact .inr (by omega)
    · exact .inr none
  · intro cell behind
    exact (second.cells cell behind).trans (first.cells cell behind)

theorem discard_drains (r : Ring) : r.Drains r.discard :=
  ⟨rfl, Nat.zero_le _, .inr ⟨rfl, rfl⟩, .inl rfl, fun _ _ => rfl⟩

theorem get_drains (r : Ring) (n : Nat) : r.Drains (r.get n).2 :=
  ⟨rfl, Nat.le_refl _, .inl rfl, .inl rfl, fun _ _ => rfl⟩

theorem takeRow_drains (r : Ring) : r.Drains r.takeRow := by
  refine ⟨rfl, ?_, .inl rfl, .inl rfl, fun _ _ => rfl⟩
  unfold takeRow
  split
  · change r.rows - 1 ≤ r.rows
    omega
  · exact Nat.zero_le _

/-- Word of a long record goes into the first cells, in a buffer that has no row then. -/
theorem asks_drains (r : Ring) (offset : Nat) :
    r.Drains { r with
      bytes := storeFrom r.bytes 0 (LengthWord.encode offset), count := .longRecord } := by
  refine ⟨storeFrom_size .., Nat.zero_le _, .inl rfl, .inr rfl, fun cell behind => ?_⟩
  apply storeFrom_outside
  intro i inside same
  rw [LengthWord.encode_length] at inside
  have low : (0 + i) % r.bytes.size ≤ 0 + i := Nat.mod_le _ _
  omega

theorem drains_readersKeep (r : Ring) : ReadersKeep (r.Drains ·) where
  gets n before := before.trans (get_drains _ n)
  takesRow before := before.trans (takeRow_drains _)
  asks offset before := before.trans (asks_drains _ offset)

end Ring

/-- What may become of a slot: its status stays or changes along one of the arrows, and while it is
not active nothing is put into its buffer. -/
structure Slot.Proceeds (before after : Slot) : Prop where
  status : after.status = before.status ∨ before.status.Next after.status
  ring : before.status ≠ .active → before.ring.Drains after.ring

namespace Slot

variable {s t u : Slot}

theorem Proceeds.refl (s : Slot) : s.Proceeds s := ⟨.inl rfl, fun _ => .refl _⟩

theorem Proceeds.of_alike (alike : s.Alike t) : s.Proceeds t :=
  ⟨.inl alike.status, fun _ => alike.ring ▸ .refl _⟩

/-- Everything may become of an active slot. -/
theorem Proceeds.of_active (active : s.status = .active) : s.Proceeds t := by
  refine ⟨?_, fun ended => absurd active ended⟩
  rw [active]
  cases t.status with
  | active => exact .inl rfl
  | eof => exact .inr .finishes
  | error => exact .inr .fails
  | done => exact .inr .closes

theorem Proceeds.of_done (done : t.status = .done) (ring : s.ring.Drains t.ring) :
    s.Proceeds t := by
  refine ⟨?_, fun _ => ring⟩
  rw [done]
  cases s.status with
  | active => exact .inr .closes
  | eof => exact .inr .readOut
  | error => exact .inr .reported
  | done => exact .inl rfl

theorem Proceeds.active_of_active (proceeds : s.Proceeds t) (active : t.status = .active) :
    s.status = .active := by
  rcases proceeds.status with same | next
  · exact same.symm.trans active
  · rw [active] at next
    exact absurd next SlotStatus.not_next_active

theorem Proceeds.done_of_done (proceeds : s.Proceeds t) (done : s.status = .done) :
    t.status = .done := by
  rcases proceeds.status with same | next
  · exact same.trans done
  · rw [done] at next
    exact absurd next SlotStatus.not_done_next

theorem Proceeds.trans (first : s.Proceeds t) (second : t.Proceeds u) : s.Proceeds u := by
  constructor
  · rcases first.status with same | next
    · rw [← same]
      exact second.status
    · rcases second.status with same | later
      · rw [same]
        exact .inr next
      · exact .inr (next.trans later)
  · intro ended
    exact (first.ring ended).trans
      (second.ring fun active => ended (first.active_of_active active))

end Slot

/-- Nothing passes through the slot: it stays as it is, or it is done, and its buffer is left alone
or emptied. -/
inductive Slot.Rests (before after : Slot) : Prop
  | stays (alike : before.Alike after) (traffic : after.traffic = before.traffic)
  | closes (done : after.status = .done)
      (ring : after.ring = before.ring ∨ after.ring = before.ring.discard)

namespace Slot

theorem Rests.refl (s : Slot) : s.Rests s := .stays ⟨rfl, rfl⟩ rfl

theorem Rests.proceeds {s t : Slot} (rests : s.Rests t) : s.Proceeds t := by
  cases rests with
  | stays alike => exact .of_alike alike
  | closes done ring =>
    apply Proceeds.of_done done
    rcases ring with same | emptied
    · rw [same]
      exact .refl _
    · rw [emptied]
      exact Ring.discard_drains _

end Slot

namespace Lane

/-- What may become of the slot of a lane. -/
def Proceeds (before after : Lane) : Prop := before.slot.Proceeds after.slot

/-- Nothing passes through the slot of a lane. -/
def Rests (before after : Lane) : Prop := before.slot.Rests after.slot

end Lane

namespace Outlet

theorem write_proceeds (o : Outlet) (limit : Nat) (record : Record) :
    o.lane.Proceeds (o.write limit record).1.lane := by
  by_cases active : o.lane.slot.status = .active
  · exact .of_active active
  · have counted : o.lane.countWrite.slot.status ≠ .active := active
    simp only [write, counted, ne_eq, not_false_eq_true, ↓reduceIte]
    exact .of_alike ⟨rfl, rfl⟩

theorem finish_proceeds (o : Outlet) : o.lane.Proceeds o.finish.1.lane := by
  by_cases active : o.lane.slot.status = .active
  · exact .of_active active
  · unfold finish
    split
    · simp only [active, ↓reduceIte]
      exact .refl _
    · simp only [active, ne_eq, not_false_eq_true, ↓reduceIte]
      exact .refl _

end Outlet

theorem Lane.proceeds_obeys : Producer.Obeys Lane.Proceeds where
  refl l := .refl l.slot
  trans := Slot.Proceeds.trans
  writes := Outlet.write_proceeds
  finishes := Outlet.finish_proceeds
  fails := by
    intro l unfinished
    rcases unfinished with active | failed
    · exact .of_active active
    · exact ⟨.inl failed.symm, fun _ => Ring.discard_drains _⟩
  givesUp _ := .of_done rfl (Ring.discard_drains _)
  sweeps failed l := by
    by_cases active : l.slot.status = .active
    · exact .of_active active
    · have same := Producer.sweepLane_slot failed l
      simp only [Producer.sweepLane, active, ↓reduceIte]
      split
      · exact .refl _
      · split
        · exact .of_alike ⟨rfl, rfl⟩
        · exact .refl _

def Queue.Proceeds : Queue → Queue → Prop := Queue.Lanewise Lane.Proceeds

namespace Consumer

variable {c : Consumer} {q : Queue}

/-- A reader takes from its slot, or closes it. -/
theorem readStep_proceeds_own (inside : c.index < q.consumers) (canWait : Bool)
    (point : ReadPoint) :
    (q.lane c.index).Proceeds ((c.readStep canWait point q).1.lane c.index) := by
  have drains := readStep_keeps inside (Ring.drains_readersKeep (q.lane c.index).slot.ring)
    canWait point (.refl _)
  unfold Lane.Proceeds
  cases readStep_works c canWait point q with
  | stays result made =>
    rw [made]
    exact .refl _
  | takes lane rows status result made =>
    rw [made] at drains ⊢
    refine ⟨.inl ?_, fun _ => drains⟩
    rw [Queue.lane_setLane_self inside]
    exact status
  | sleeps lane rows status next made =>
    rw [made] at drains ⊢
    refine ⟨.inl ?_, fun _ => drains⟩
    rw [sleep_slot inside]
    exact status
  | closes ended spent lane rows result made holder ring undone done =>
    rw [made] at drains ⊢
    refine .of_done ?_ drains
    rw [Queue.wakeProducer_lane, Queue.lane_setLane_self inside]
    exact done

theorem readStep_proceeds (canWait : Bool) (point : ReadPoint) :
    q.Proceeds (c.readStep canWait point q).1 := by
  intro i inside
  by_cases same : c.index = i
  · subst same
    exact readStep_proceeds_own inside canWait point
  · rw [(c.readStep_frame canWait point q).others i same]
    exact .refl _

theorem reset_rests : q.Lanewise Lane.Rests (c.reset q).1 := by
  intro i inside
  by_cases same : c.index = i
  · subst same
    rcases reset_slot inside with still | ⟨ring, done⟩
    · unfold Lane.Rests
      rw [still]
      exact .refl _
    · exact .closes done (.inl ring)
  · rw [(c.reset_frame q).2.1 i same]
    exact .refl _

end Consumer

namespace Queue

/-- A new producer hands the slots out and leaves it at that. -/
theorem bindProducer_rests (q : Queue) (session : Session) (consumerNodes nodes : List NodeId) :
    q.Lanewise Lane.Rests (q.bindProducer session consumerNodes nodes).1 := by
  intro i _
  obtain ⟨given, slot⟩ := bindProducer_slot q session consumerNodes nodes i
  exact .stays (bindProducer_alike q session consumerNodes nodes i) (by rw [slot])

theorem bindConsumer_rests (q : Queue) (session : Session) (name : String) :
    q.Lanewise Lane.Rests (q.bindConsumer session name).1 := by
  intro i _
  unfold Lane.Rests
  cases q.bindConsumer_admits session name with
  | refuses cause made =>
    rw [made]
    exact .refl _
  | closes own inside closed cause made =>
    rw [made, wakeProducer_lane]
    by_cases same : own = i
    · subst same
      rw [lane_setLane_self inside]
      exact .closes rfl (.inl rfl)
    · rw [lane_setLane_other q same]
      exact .refl _
  | attaches own inside free opened made =>
    rw [made]
    by_cases same : own = i
    · subst same
      rw [lane_setLane_self inside]
      exact .stays ⟨rfl, rfl⟩ rfl
    · rw [lane_setLane_other q same]
      exact .refl _

theorem releaseConsumer_slot (q : Queue) (session : Session) {i : Nat} (inside : i < q.consumers) :
    ((q.releaseConsumer session).lane i).slot = (q.lane i).slot ∨
      ((q.releaseConsumer session).lane i).slot.status = .done ∧
        ((q.releaseConsumer session).lane i).slot.ring = (q.lane i).slot.ring := by
  simp only [releaseConsumer]
  split
  · rename_i own _
    split
    · exact .inl rfl
    · rw [wakeProducer_lane]
      by_cases same : own = i
      · subst same
        rw [lane_setLane_self inside]
        exact .inr ⟨rfl, rfl⟩
      · rw [lane_setLane_other q same]
        exact .inl rfl
  · rw [wakeProducer_lane]
    split
    · rename_i first _
      by_cases same : first = i
      · subst same
        rw [lane_setLane_self (by rw [mapLanes_consumers]; exact inside)]
        exact .inr ⟨rfl, rfl⟩
      · rw [lane_setLane_other _ same, lane_mapLanes inside]
        split
        · exact .inr ⟨rfl, rfl⟩
        · exact .inl rfl
    · exact .inl rfl

theorem releaseConsumer_rests (q : Queue) (session : Session) :
    q.Lanewise Lane.Rests (q.releaseConsumer session) := by
  intro i inside
  unfold Lane.Rests
  rcases releaseConsumer_slot q session inside with same | ⟨done, ring⟩
  · rw [same]
    exact .refl _
  · exact .closes done (.inl ring)

/-- A reader that is gone leaves its slots empty, and the others alone. -/
theorem disconnect_slot (q : Queue) (session : Session) {i : Nat} (inside : i < q.consumers) :
    ((q.disconnect session).lane i).slot = (q.lane i).slot ∨
      ((q.disconnect session).lane i).slot.status = .done ∧
        ((q.disconnect session).lane i).slot.ring = (q.lane i).slot.ring.discard := by
  unfold disconnect
  rw [wakeProducer_lane, lane_mapLanes inside]
  split
  · exact .inr ⟨rfl, rfl⟩
  · exact .inl rfl

theorem disconnect_rests (q : Queue) (session : Session) :
    q.Lanewise Lane.Rests (q.disconnect session) := by
  intro i inside
  unfold Lane.Rests
  rcases disconnect_slot q session inside with same | ⟨done, ring⟩
  · rw [same]
    exact .refl _
  · exact .closes done (.inr ring)

end Queue

theorem Lane.rests_sessions : Queue.SessionsObey Lane.Rests where
  refl l := .refl l.slot
  takesUp := Queue.bindProducer_rests
  attaches := Queue.bindConsumer_rests
  releases _ := Queue.releaseConsumer_rests _
  disconnects _ := Queue.disconnect_rests _

theorem Lane.proceeds_others : Queue.OthersObey Lane.Proceeds where
  toSessionsObey := Lane.rests_sessions.imp Slot.Rests.proceeds
  reads _ _ canWait point := Consumer.readStep_proceeds canWait point
  leaves _ _ i inside := (Consumer.reset_rests i inside).proceeds

end RecordExchange
