import RecordExchange.Proofs.Commons.Sleeping
import RecordExchange.Proofs.Commons.Actions
import RecordExchange.Proofs.Queue.Attendance

set_option autoImplicit false

/-!
What a slot that is done still yields.

A read looks at its slot's status where it finds no row, so a slot that is done refuses its reader
as soon as nothing is queued there. Whether anything is queued is decided by who closed it: a
producer and the report of a reader's end empty the buffers they close, a session that gives its
claim up, a reader that stops and a reader that is turned away leave them as they are.
-/

namespace RecordExchange

/-- If work on a slot closes it, the buffer has no rows left exactly if it had none before, or the
work is of a kind that empties what it closes. -/
def Slot.Shuts (empties : Prop) (before after : Slot) : Prop :=
  before.status ≠ .done → after.status = .done →
    (after.ring.rows = 0 ↔ before.ring.rows = 0 ∨ empties)

namespace Slot

variable {s t u : Slot} {empties : Prop}

theorem Shuts.of_status (same : t.status = s.status) : s.Shuts empties t := by
  intro unfinished done
  rw [same] at done
  exact absurd done unfinished

theorem Shuts.refl (s : Slot) : s.Shuts empties s := .of_status rfl

theorem Shuts.of_ring (same : t.ring = s.ring) : s.Shuts False t := by
  intro _ _
  rw [same, or_false]

end Slot

namespace Lane

/-- The slot of a lane lives on, and if it is closed its buffer is emptied. -/
def Voids (before after : Lane) : Prop :=
  before.slot.Proceeds after.slot ∧ before.slot.Shuts True after.slot

/-- If the slot of a lane is closed its buffer is left alone. -/
def Abandons (before after : Lane) : Prop := before.slot.Shuts False after.slot

variable {l m n : Lane}

theorem Voids.rows (voids : l.Voids m) (unfinished : l.slot.status ≠ .done)
    (done : m.slot.status = .done) : m.slot.ring.rows = 0 :=
  (voids.2 unfinished done).mpr (.inr trivial)

theorem Voids.of_rows (proceeds : l.slot.Proceeds m.slot)
    (none : l.slot.status ≠ .done → m.slot.status = .done → m.slot.ring.rows = 0) : l.Voids m :=
  ⟨proceeds, fun unfinished done => iff_of_true (none unfinished done) (.inr trivial)⟩

theorem Voids.of_unfinished (proceeds : l.slot.Proceeds m.slot) (unfinished : m.slot.status ≠ .done) :
    l.Voids m := .of_rows proceeds fun _ done => absurd done unfinished

theorem Voids.trans (first : l.Voids m) (second : m.Voids n) : l.Voids n := by
  refine .of_rows (first.1.trans second.1) fun unfinished done => ?_
  by_cases before : m.slot.status = .done
  · have active : m.slot.status ≠ .active := by
      rw [before]
      exact SlotStatus.noConfusion
    have none := first.rows unfinished before
    have less := (second.1.ring active).rows
    omega
  · exact second.rows before done

end Lane

theorem Lane.voids_obeys : Producer.Obeys Lane.Voids where
  refl l := ⟨.refl _, .refl _⟩
  trans := Lane.Voids.trans
  writes o limit record := ⟨o.write_proceeds limit record, .of_status (o.write_status limit record)⟩
  finishes o := .of_rows o.finish_proceeds fun unfinished done =>
    absurd done (o.finish_status unfinished)
  fails unfinished := .of_unfinished (Lane.proceeds_obeys.fails unfinished) SlotStatus.noConfusion
  givesUp unattached := .of_rows (Lane.proceeds_obeys.givesUp unattached) fun _ _ => rfl
  sweeps failed l := by
    refine .of_rows (Lane.proceeds_obeys.sweeps failed l) fun unfinished done => ?_
    rcases Producer.sweepLane_slot failed l with same | ⟨-, error⟩
    · rw [same] at done
      exact absurd done unfinished
    · exact nomatch error.symm.trans done

namespace Queue

theorem disconnect_voids (q : Queue) (session : Session) :
    q.Lanewise Lane.Voids (q.disconnect session) := by
  intro i inside
  refine .of_rows (disconnect_rests q session i inside).proceeds fun unfinished done => ?_
  rcases disconnect_slot q session inside with same | ⟨-, emptied⟩
  · rw [same] at done
    exact absurd done unfinished
  · rw [emptied]
    rfl

/-- A session that gives its claim up leaves the buffers it closes as they are. -/
theorem releaseConsumer_abandons (q : Queue) (session : Session) :
    q.Lanewise Lane.Abandons (q.releaseConsumer session) := by
  intro i inside
  rcases releaseConsumer_slot q session inside with same | ⟨-, ring⟩
  · exact .of_ring (congrArg Slot.ring same)
  · exact .of_ring ring

theorem bindProducer_abandons (q : Queue) (session : Session) (consumerNodes nodes : List NodeId) :
    q.Lanewise Lane.Abandons (q.bindProducer session consumerNodes nodes).1 :=
  fun i _ => .of_ring (bindProducer_alike q session consumerNodes nodes i).ring

/-- So does a reader that is turned away from a slot that failed. -/
theorem bindConsumer_abandons (q : Queue) (session : Session) (name : String) :
    q.Lanewise Lane.Abandons (q.bindConsumer session name).1 := by
  intro i _
  cases q.bindConsumer_admits session name with
  | refuses cause made =>
    rw [made]
    exact .refl _
  | closes own inside closed cause made =>
    rw [made, wakeProducer_lane]
    by_cases same : own = i
    · subst same
      apply Slot.Shuts.of_ring
      rw [lane_setLane_self inside]
      rfl
    · rw [lane_setLane_other q same]
      exact .refl _
  | attaches own inside free opened made =>
    rw [made]
    by_cases same : own = i
    · subst same
      apply Slot.Shuts.of_status
      rw [lane_setLane_self inside]
    · rw [lane_setLane_other q same]
      exact .refl _

end Queue

namespace Consumer

variable {c : Consumer} {q : Queue} {canWait : Bool} {point : ReadPoint}

theorem readStep_abandons (c : Consumer) (canWait : Bool) (point : ReadPoint) (q : Queue) :
    q.Lanewise Lane.Abandons (c.readStep canWait point q).1 := by
  intro i inside
  by_cases same : c.index = i
  · subst same
    cases readStep_works c canWait point q with
    | stays result made =>
      rw [made]
      exact .refl _
    | takes lane rows status result made =>
      rw [made]
      apply Slot.Shuts.of_status
      rw [Queue.lane_setLane_self inside]
      exact status
    | sleeps lane rows status next made =>
      rw [made]
      apply Slot.Shuts.of_status
      rw [sleep_slot inside]
      exact status
    | closes ended spent lane rows result made holder ring =>
      rw [made]
      apply Slot.Shuts.of_ring
      rw [Queue.wakeProducer_lane, Queue.lane_setLane_self inside]
      exact ring
  · rw [(c.readStep_frame canWait point q).others i same]
    exact .refl _

theorem reset_abandons (c : Consumer) (q : Queue) : q.Lanewise Lane.Abandons (c.reset q).1 := by
  intro i inside
  by_cases same : c.index = i
  · subst same
    rcases reset_slot inside with still | ⟨ring, -⟩
    · exact .of_ring (congrArg Slot.ring still)
    · exact .of_ring ring
  · rw [(c.reset_frame q).2.1 i same]
    exact .refl _

/-- A read of a slot that is done reports that and does nothing else, unless it looks for a row and
there is one. -/
theorem readStep_done (done : (q.lane c.index).slot.status = .done)
    (spent : point = .row → (q.lane c.index).slot.ring.rows = 0) :
    c.readStep canWait point q = (q, c, .ended (.error (.slotClosed c.handle.name c.index))) := by
  cases point with
  | row => simp only [readStep, spent rfl, done, fail, ↓reduceIte]
  | chunk record => simp only [readStep, done, fail, ↓reduceIte]

theorem deliver_refuses {ring : Ring} {payload : Record} {cause : Error}
    (failed : (c.deliver q ring payload).2.2 = .ended (.error cause)) : cause = .panicked := by
  rcases deliver_result c q ring payload with brings | stopped
  · exact nomatch brings.symm.trans failed
  · cases stopped.symm.trans failed
    rfl

/-- A read that finds a row takes it or begins to, whatever the status of the slot, and an
assertion is all it can fail at. -/
theorem readStep_row_some (some : (q.lane c.index).slot.ring.rows ≠ 0) {cause : Error}
    (failed : (c.readStep canWait .row q).2.2 = .ended (.error cause)) : cause = .panicked := by
  simp only [readStep, if_neg some] at failed
  split at failed
  · rw [pull] at failed
    split at failed
    · exact deliver_refuses failed
    · split at failed
      · cases failed
      · cases failed
        rfl
  · exact deliver_refuses failed

end Consumer

theorem Lane.abandons_readers : Queue.ReadersObey Lane.Abandons where
  refl l := .refl l.slot
  reads _ c canWait point := c.readStep_abandons canWait point _
  leaves _ c := c.reset_abandons _

/-- The moves that empty the buffers they close. -/
def Move.Empties : Move → Prop
  | .produce .. => True
  | .disconnect .. => True
  | _ => False

namespace Commons

variable {x : Commons}

/-- A move that closes a slot leaves it without rows exactly if it had none, or the move is a
producer's or the report of a reader's end. -/
theorem perform_shuts (founded : x.Founded) (move : Move) {e : Nat}
    (same : (x.perform move).turn e = x.turn e) (i : Nat) :
    (x.memory.slotAt e i).Shuts move.Empties ((x.perform move).memory.slotAt e i) := by
  have abandons := Lane.abandons_readers
  cases move with
  | acquire live session name consumers =>
    exact (acquire_slotwise Slot.Shuts.refl founded live session name consumers same).slots i
  | bind live session name consumerNodes distribution limit =>
    obtain ⟨h, changes⟩ := bind_changes founded abandons.refl Queue.bindProducer_abandons
      Queue.bindConsumer_abandons live session name consumerNodes distribution limit
    exact (changes.slotwise Slot.Shuts.refl e).slots i
  | release live session name =>
    obtain ⟨h, changes⟩ := release_changes founded abandons.refl
      (fun _ => Queue.releaseConsumer_abandons _) live session name
    exact (changes.slotwise Slot.Shuts.refl e).slots i
  | disconnect live session name =>
    obtain ⟨h, changes⟩ := disconnect_changes founded Lane.voids_obeys.refl
      (fun _ => Queue.disconnect_voids _) live session name
    exact ((changes.slotwise (S := fun s t => s.Proceeds t ∧ s.Shuts True t)
      (fun s => ⟨.refl s, .refl s⟩) e).slots i).2
  | produce k move =>
    have voids := produce_slotwise (S := fun s t => s.Proceeds t ∧ s.Shuts True t) Lane.voids_obeys
      (fun s => ⟨.refl s, .refl s⟩) founded k move e
    exact (voids.slots i).2
  | consume k move =>
    exact (consume_slotwise abandons Slot.Shuts.refl founded k move e).slots i

theorem history_cons (x : Commons) (moves : List Move) : ∃ rest, x.history moves = x :: rest := by
  cases moves with
  | nil => exact ⟨[], rfl⟩
  | cons move rest => exact ⟨_, rfl⟩

theorem run_mem_history (x : Commons) (moves : List Move) : x.run moves ∈ x.history moves := by
  induction moves generalizing x with
  | nil => exact List.mem_singleton_self x
  | cons move rest ih => exact List.mem_cons_of_mem x (ih (x.perform move))

/-- A slot lives on from the beginning of a run to its end. -/
theorem run_proceeds (founded : x.Founded) (moves : List Move) {e : Nat}
    (same : ∀ y ∈ x.history moves, y.turn e = x.turn e) (i : Nat) :
    (x.memory.slotAt e i).Proceeds ((x.run moves).memory.slotAt e i) := by
  have chain := (history_proceeds founded moves same i).pairwise
  have last := run_mem_history x moves
  obtain ⟨rest, begins⟩ := history_cons x moves
  rw [begins] at chain last
  rcases List.mem_cons.mp last with here | later
  · rw [here]
    exact .refl _
  · exact List.rel_of_pairwise_cons chain (List.mem_map_of_mem later)

/-- After every run. Whatever move closes a slot leaves it without rows exactly if it had none
before or the move empties what it closes. And a slot that is done stays so and is only drained, as
long as its place is not laid out again; a read of it, whoever's and from wherever it stands,
reports that the slot is closed and leaves the memory as it is, exactly if it is inside a long
record or no row is left. -/
theorem done_slot_read_iff (c : Config) (creator : ProcessId) (moves : List Move) (e i : Nat) :
    let x := (start c creator).run moves
    (∀ move, (x.perform move).turn e = x.turn e → (x.memory.slotAt e i).status ≠ .done →
      ((x.perform move).memory.slotAt e i).status = .done →
        (((x.perform move).memory.slotAt e i).ring.rows = 0 ↔
          (x.memory.slotAt e i).ring.rows = 0 ∨ move.Empties)) ∧
    ((x.memory.slotAt e i).status = .done →
      ∀ later, (∀ y ∈ x.history later, y.turn e = x.turn e) →
        let y := x.run later
        let slot := y.memory.slotAt e i
        slot.status = .done ∧ (x.memory.slotAt e i).ring.Drains slot.ring ∧
          ∀ (k : Nat) (seat : ConsumerSeat) (move : ConsumerMove) (canWait : Bool)
            (point : ReadPoint), y.consumers[k]? = some seat → seat.consumer.handle.entry = e →
            seat.consumer.index = i → seat.takesUp move = some (canWait, point) →
            ((seat.consumer.readStep canWait point (y.memory.queue seat.consumer.handle)).2.2 =
                  .ended (.error (.slotClosed seat.consumer.handle.name i)) ∧
                (y.perform (.consume k move)).memory = y.memory ↔
              (point = .row → slot.ring.rows = 0))) := by
  intro x
  have founded : x.Founded := (Founded.start c creator).run moves
  refine ⟨fun move same => perform_shuts founded move same i, ?_⟩
  intro done later same y slot
  have proceeds := run_proceeds founded later same i
  have inactive : (x.memory.slotAt e i).status ≠ .active := by
    rw [done]
    exact SlotStatus.noConfusion
  have stays : slot.status = .done := proceeds.done_of_done done
  refine ⟨stays, proceeds.ring inactive, ?_⟩
  intro k seat move canWait point here place own reads
  subst place own
  constructor
  · rintro ⟨closed, -⟩ rfl
    by_contra some
    have panics := Consumer.readStep_row_some (q := y.memory.queue seat.consumer.handle) some closed
    cases panics
  · intro spent
    let q := y.memory.queue seat.consumer.handle
    have read : seat.consumer.readStep canWait point q = _ := Consumer.readStep_done stays spent
    refine ⟨congrArg (·.2.2) read, ?_⟩
    have moved := ConsumerSeat.step_of_takesUp (q := q) reads
    have kept : (seat.step q move).2 = q := by
      rw [moved]
      exact congrArg (·.1) read
    simp only [perform, consume, here]
    change y.memory.setQueue seat.consumer.handle (seat.step q move).2 = y.memory
    rw [kept]
    exact y.memory.setQueue_queue seat.consumer.handle

/-- A producer writes a record, and the consumer stops reading. -/
def leftEarly : List Move :=
  [.acquire undisturbed ⟨100, 0⟩ "rows" 1, .acquire undisturbed ⟨101, 1⟩ "rows" 1,
    .bind undisturbed ⟨100, 0⟩ "rows" [1] [0, 1] 64,
    .bind undisturbed ⟨101, 1⟩ "rows" [1] [0, 1] 64,
    .produce 0 (.call (.write 0 [7])), .consume 0 .leave]

/-- Its slot is done and still has the record. Once that was read, the slot refuses its reader. -/
theorem done_slot_read_iff_leftEarly :
    (((start narrow 1).run leftEarly).memory.slotAt 0 0).status = .done ∧
      (((start narrow 1).run leftEarly).memory.slotAt 0 0).ring.rows = 1 ∧
      ∃ seat, (((start narrow 1).run leftEarly).run [.consume 0 (.read true)]).consumers[0]? =
          some seat ∧
        (seat.consumer.readStep true .row
            ((((start narrow 1).run leftEarly).run [.consume 0 (.read true)]).memory.queue
              seat.consumer.handle)).2.2 =
          .ended (.error (.slotClosed seat.consumer.handle.name 0)) := by
  have done : (((start narrow 1).run leftEarly).memory.slotAt 0 0).status = .done := by
    decide +kernel
  have rows : (((start narrow 1).run leftEarly).memory.slotAt 0 0).ring.rows = 1 := by
    decide +kernel
  have same : ∀ z ∈ ((start narrow 1).run leftEarly).history [.consume 0 (.read true)],
      z.turn 0 = ((start narrow 1).run leftEarly).turn 0 := by decide +kernel
  have stands : (((start narrow 1).run leftEarly).run [.consume 0 (.read true)]).consumers.map
      (fun seat => (seat.consumer.handle.entry, seat.consumer.index, seat.takesUp (.read true))) =
      [(0, 0, some (true, .row))] := by decide +kernel
  have none : ((((start narrow 1).run leftEarly).run
      [.consume 0 (.read true)]).memory.slotAt 0 0).ring.rows = 0 := by decide +kernel
  obtain ⟨seat, only, found⟩ := List.map_eq_singleton_iff.mp stands
  simp only [Prod.mk.injEq] at found
  obtain ⟨entry, index, reads⟩ := found
  have here : (((start narrow 1).run leftEarly).run [.consume 0 (.read true)]).consumers[0]? =
      some seat := by
    rw [only]
    rfl
  have refused := ((done_slot_read_iff narrow 1 leftEarly 0 0).2 done _ same).2.2 0 seat
    (.read true) true .row here entry index reads
  exact ⟨done, rows, seat, here, (refused.mpr fun _ => none).1⟩

/-- The record that was left is handed out by the next read. -/
theorem read_after_leaving :
    let x := (start narrow 1).run leftEarly
    x.consumers.map (fun seat =>
      ((x.laneOf seat).slot.status, seat.takesUp (.read true),
        match (seat.consumer.readStep true .row (x.memory.queue seat.consumer.handle)).2.2 with
        | .ended (.ok outcome) => some outcome
        | _ => none)) =
      [(.done, some (true, .row), some (.record [7]))] := by
  decide +kernel

end Commons

end RecordExchange
