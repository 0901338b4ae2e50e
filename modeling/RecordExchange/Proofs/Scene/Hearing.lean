import RecordExchange.Proofs.Commons.Actions
import RecordExchange.Proofs.Commons.Sleeping
import RecordExchange.Proofs.Exchange.Calm
import RecordExchange.Proofs.Exchange.Producing
import RecordExchange.Proofs.Scene.Run

set_option autoImplicit false

/-!
What a reader hears of its producer.

A reader that sleeps and was not signalled has missed nothing: its buffer holds no row, and its slot
is active. The producer's work on a lane keeps this up because it signals whatever a reader waits
for; a reader's own step does because a reader looks at its slot before it goes to sleep. In the
middle of a long record it looks at less, but there the record it is to get tells that the slot is
active.
-/

namespace RecordExchange

namespace Slot

/-- A buffer without rows is free, whatever its cursors say. -/
theorem isHalfFree_of_rows {s : Slot} (none : s.ring.rows = 0)
    (room : LengthWord.size < s.ring.capacity) : s.isHalfFree = true := by
  have free : s.ring.free = s.ring.capacity := if_pos none
  rw [isHalfFree, decide_eq_true_iff, free]
  omega

end Slot

/-- A slot whose reader asks for the next chunk of a long record is not at the end of its data. -/
theorem Awaits.active {keeps : Bool} {slot : Slot} {held : Option OverflowStore} {skip : Nat}
    {queue : List Record} (awaits : Awaits keeps slot held skip queue)
    (asked : slot.ring.count = .longRecord) (opened : slot.IsOpen) : slot.status = .active := by
  refine opened.resolve_right fun ended => ?_
  obtain ⟨t, rest, feeds, -, -⟩ := awaits
  have sent := (feeds.ended ended).1
  cases t with
  | rows skip records =>
    have carries : slot.ring.CarriesRows skip records := feeds.carries
    have none := carries.rows_eq_zero_iff.mp (Ring.rows_of_longRecord asked)
    rw [none] at carries
    exact nomatch carries.queues.count.symm.trans asked
  | chunk skip record => cases sent
  | request skip record => cases sent

namespace Outlet

variable {o : Outlet} {pending : Nat}

/-- An outlet that keeps something back behind a half empty buffer signals its reader. -/
theorem finish_signals (half : o.lane.slot.isHalfFree = true) (done : o.finish.2 = .ok pending)
    (kept : o.finish.1.held ≠ none) : o.finish.1.lane.latch.isSet = true := by
  obtain ⟨lane, held⟩ := o
  cases held with
  | none =>
    have none : (finish ⟨lane, none⟩).1.held = none := by
      simp only [finish]
      split
      · rfl
      · rfl
    exact absurd none kept
  | some store =>
    by_cases active : lane.slot.status = .active
    · revert done
      simp only [finish, active, half, ne_eq, not_true_eq_false, ↓reduceIte]
      split
      · intro done
        cases done
      · exact fun _ => rfl
      · exact fun _ => rfl
    · simp only [finish, active, ne_eq, not_false_eq_true, not_true_eq_false, ↓reduceIte] at kept

end Outlet

/-- What a piece of the producer's work on a lane is to the reader: it is told what it waits for,
its records stay in their order, and a slot that is closed is emptied. -/
structure Serving (before after : Lane) (held held' : Option OverflowStore) (added : List Record) :
    Prop where
  tells : before.Tells after
  yields : Yields true true before.slot held after.slot held' added
  empties : before.slot.IsOpen → ¬ after.slot.IsOpen → after.slot.ring.rows = 0

namespace Serving

variable {l : Lane} {held : Option OverflowStore} {o : Outlet} {skip : Nat} {queue : List Record}
  {limit : Nat} {record : Record}

theorem alike {before after : Lane} (tells : before.Tells after)
    (same : before.slot.Alike after.slot) : Serving before after held held [] :=
  ⟨tells, .alike same fun _ => ⟨rfl, rfl⟩, fun opened closed => by
    rw [Slot.IsOpen, same.status] at closed
    exact absurd opened closed⟩

theorem refl (l : Lane) (held : Option OverflowStore) : Serving l l held held [] :=
  alike (.refl l) ⟨rfl, rfl⟩

theorem write (awaits : Awaits true o.lane.slot o.held skip queue)
    (active : o.lane.slot.status = .active) (short : record.length ≤ LengthWord.maxLength) :
    Serving o.lane (o.write limit record).1.lane o.held (o.write limit record).1.held [record] :=
  ⟨Lane.tells_strokes.write .., .write active limit short, fun _ closed =>
    absurd (.inl (Outlet.write_active active awaits limit short).2.1) closed⟩

/-- What is held back for a slot that is not active is not needed any more. -/
theorem dropped (closed : l.slot.status ≠ .active) : Serving l l held none [] :=
  ⟨.refl l, .dropped closed ⟨rfl, rfl⟩, fun opened closed => absurd opened closed⟩

theorem write_closed (closed : o.lane.slot.status ≠ .active) :
    Serving o.lane (o.write limit record).1.lane o.held (o.write limit record).1.held [] := by
  refine ⟨Lane.tells_strokes.write .., .write_closed closed limit record, fun opened closed' => ?_⟩
  rw [Outlet.write_closed closed] at closed'
  exact absurd opened closed'

theorem finish (awaits : Awaits true o.lane.slot o.held skip queue) :
    Serving o.lane o.finish.1.lane o.held o.finish.1.held [] := by
  by_cases active : o.lane.slot.status = .active
  · refine ⟨Lane.tells_strokes.finish o, .finish o, fun _ closed => ?_⟩
    exact absurd (Outlet.finish_active awaits active).2.1 closed
  · rw [Outlet.finish_closed active]
    exact dropped active

theorem emptied {status : SlotStatus} (closed : ¬ (l.withStatus status).slot.IsOpen) :
    Serving l (l.withStatus status).discard.wake held held [] :=
  ⟨Lane.wake_tells .., .cleared rfl closed, fun _ _ => rfl⟩

theorem fail (l : Lane) (held : Option OverflowStore) :
    Serving l (Producer.failLane l) held held [] := by
  have failed : Serving l (l.withStatus .error).discard.wake held held [] :=
    emptied (Slot.not_isOpen_of_error rfl)
  rw [Producer.failLane]
  split
  · exact refl l held
  · exact refl l held
  · exact failed

theorem giveUp (l : Lane) (held : Option OverflowStore) :
    Serving l (if Producer.isUnattached l then (l.withStatus .done).discard.wake else l) held held
      [] := by
  split
  · exact emptied (Slot.not_isOpen_of_done rfl)
  · exact refl l held

theorem sweep (l : Lane) (held : Option OverflowStore) :
    Serving l (Producer.sweepLane false l) held held [] := by
  refine alike (Lane.tells_obeys.sweeps false l) ?_
  simp only [Producer.sweepLane, Bool.false_eq_true, ↓reduceIte]
  split
  · exact ⟨rfl, rfl⟩
  · exact ⟨rfl, rfl⟩

end Serving

namespace Port

/-- What ties a reader that met no mismatch to its lane, and to what is held back for it. -/
structure Hears (port : Port) (seat : ReaderStage) (lane : Lane) (held : Option OverflowStore) :
    Prop where
  sound : port.Sound true lane.slot held
  drained : seat ≠ .absent → ¬ lane.slot.IsOpen → lane.slot.ring.rows = 0
  resting : port.reading ≠ none → lane.latch.isSet = false →
    lane.slot.ring.rows = 0 ∧ lane.slot.status = .active

namespace Hears

variable {port : Port} {seat : ReaderStage} {before after : Lane}
  {held held' : Option OverflowStore} {added : List Record}

theorem served (hears : port.Hears seat before held)
    (serving : Serving before after held held' added) :
    ({ port with accepted := port.accepted ++ added } : Port).Hears seat after held' := by
  refine ⟨hears.sound.yields serving.yields, ?_, ?_⟩
  · intro bound closed
    by_cases opened : before.slot.IsOpen
    · exact serving.empties opened closed
    · exact (serving.yields.spent ⟨opened, hears.drained bound opened⟩).none
  · intro asleep clear
    cases serving.tells with
    | signals set => exact nomatch clear.symm.trans set
    | still latch rows status =>
      obtain ⟨none, active⟩ := hears.resting asleep (latch.symm.trans clear)
      exact ⟨rows none, status active⟩

theorem awaits (hears : port.Hears seat before held) (matched : port.mismatched = false) :
    ∃ skip queue, Awaits true before.slot held skip queue := by
  obtain ⟨skip, queue, awaits, -, -⟩ := hears.sound matched
  exact ⟨skip, queue, awaits⟩

/-- A reader asleep is signalled if a pass keeps something back for it. -/
theorem passed {o : Outlet} (hears : port.Hears seat o.lane o.held)
    (matched : port.mismatched = false) {pending : Nat} (done : o.finish.2 = .ok pending)
    (kept : o.finish.1.held ≠ none) (asleep : port.reading ≠ none) :
    o.finish.1.lane.latch.isSet = true := by
  obtain ⟨skip, queue, t, rest, feeds, -, -⟩ := hears.awaits matched
  cases Lane.tells_strokes.finish o with
  | signals set => exact set
  | still latch rows status =>
    cases clear : o.lane.latch.isSet with
    | true => exact latch.trans clear
    | false =>
      have none := (hears.resting asleep clear).1
      exact Outlet.finish_signals (Slot.isHalfFree_of_rows none feeds.carries.room) done kept

end Hears

end Port

namespace Consumer

variable {c : Consumer} {q : Queue} {after : Queue × Consumer × ReadStep}

/-- The slot after a step of a read: its rows and its status. -/
theorem Works.empties (works : c.Works q after) (inside : c.index < q.consumers)
    (drained : ¬ (q.lane c.index).slot.IsOpen → (q.lane c.index).slot.ring.rows = 0)
    (closed : ¬ (after.1.lane c.index).slot.IsOpen) :
    (after.1.lane c.index).slot.ring.rows = 0 := by
  cases works with
  | stays result made =>
    rw [made] at closed ⊢
    exact drained closed
  | takes lane rows status result made =>
    rw [made, Queue.lane_setLane_self inside] at closed ⊢
    rw [Slot.IsOpen, status] at closed
    exact rows (drained closed)
  | sleeps lane rows status next made =>
    rw [made, sleep_slot inside] at closed ⊢
    rw [Slot.IsOpen, status] at closed
    exact rows (drained closed)
  | closes ended spent lane rows result made =>
    rw [made, Queue.wakeProducer_lane, Queue.lane_setLane_self inside]
    by_cases opened : (q.lane c.index).slot.IsOpen
    · exact rows (spent opened)
    · exact rows (drained opened)

/-- A step of a read takes no signal from the producer, and sends one if it goes to sleep. -/
theorem Works.signals (works : c.Works q after)
    (signalled : q.sync.producer.isSet = true ∨ ∃ next, after.2.2 = .sleeps next) :
    after.1.sync.producer.isSet = true := by
  cases works with
  | stays result made =>
    rw [made] at signalled ⊢
    exact signalled.resolve_right nofun
  | takes lane rows status result made =>
    rw [made] at signalled ⊢
    exact signalled.resolve_right nofun
  | sleeps lane rows status next made =>
    rw [made]
    rfl
  | closes ended spent lane rows result made =>
    rw [made]
    rfl

end Consumer

namespace Port.Hears

variable {port : Port} {seat : ReaderStage} {held : Option OverflowStore} {q : Queue} {i : Nat}
  {point : ReadPoint}

/-- A step of a read goes to sleep only beside an active slot without rows. -/
theorem slept (hears : port.Hears seat (q.lane i) held) (bound : seat ≠ .absent)
    (matched : port.mismatched = false) (index : port.consumer.index = i)
    (inside : i < q.consumers) (unfinished : point.Unfinished) {next : ReadPoint}
    (slept : (port.consumer.readStep true point q).2.2 = .sleeps next)
    (sound : (port.after (port.consumer.readStep true point q).2.1 point (.sleeps next)).Sound true
      ((port.consumer.readStep true point q).1.lane i).slot held) :
    ((port.consumer.readStep true point q).1.lane i).slot.ring.rows = 0 ∧
      ((port.consumer.readStep true point q).1.lane i).slot.status = .active := by
  subst index
  cases port.consumer.readStep_rests q true unfinished with
  | ends awake result ended => exact nomatch slept.symm.trans ended
  | sleeps reason lane next status later made asks =>
    obtain ⟨skip, queue, awaits, -, -⟩ := sound matched
    rw [made, Consumer.sleep_slot inside] at awaits ⊢
    rcases asks with asked | rests
    · have opened : (q.lane port.consumer.index).slot.IsOpen := by
        cases reason with
        | nothing none active patient => exact .inl active
        | beginning only long =>
          have rows := Ring.rows_of_count only
          refine not_not.mp fun closed => ?_
          rw [hears.drained bound closed] at rows
          cases rows
        | requested opened asked => exact opened
        | middle opened only next more => exact opened
      rw [Slot.IsOpen, ← status] at opened
      exact ⟨Ring.rows_of_longRecord asked, awaits.active asked opened⟩
    · exact rests

/-- A step of a read moves on in what its reader is to get. -/
theorem advances (hears : port.Hears seat (q.lane i) held) (matched : port.mismatched = false)
    (index : port.consumer.index = i) (inside : i < q.consumers) (stands : port.StandsAt point) :
    ∃ skip queue, port.Follows (q.lane i).slot skip queue ∧ port.Accounts queue ∧
      Advances true held skip queue (q.lane i).slot point
        ((port.consumer.readStep true point q).1.lane i).slot
        (port.consumer.readStep true point q).2.2 := by
  obtain ⟨skip, queue, ⟨t, rest, feeds, rfl, rfl⟩, follows, accounts⟩ := hears.sound matched
  subst index
  exact ⟨_, _, follows, accounts,
    Consumer.readStep_advances inside feeds point (follows.placed_at stands)⟩

theorem read (hears : port.Hears seat (q.lane i) held) (bound : seat ≠ .absent)
    (matched : port.mismatched = false) (index : port.consumer.index = i)
    (inside : i < q.consumers) (stands : port.StandsAt point) (unfinished : point.Unfinished)
    (after : ReaderStage) :
    (port.after (port.consumer.readStep true point q).2.1 point
      (port.consumer.readStep true point q).2.2).Hears after
        ((port.consumer.readStep true point q).1.lane i) held := by
  obtain ⟨skip, queue, follows, accounts, advances⟩ := hears.advances matched index inside stands
  have sound := Port.Sound.step stands follows accounts advances
    (port.consumer.readStep true point q).2.1
  refine ⟨sound, ?_, ?_⟩
  · intro _
    subst index
    exact (port.consumer.readStep_works true point q).empties inside (hears.drained bound)
  · intro asleep _
    cases step : (port.consumer.readStep true point q).2.2 with
    | ended result =>
      rw [step] at asleep
      exact absurd (Port.ended_reading _ point result) asleep
    | sleeps next =>
      rw [step] at sound
      exact hears.slept bound matched index inside unfinished step sound

theorem giveUp {lane : Lane} (hears : port.Hears seat lane held)
    (sleeping : port.reading = some point) {cause : Error}
    (other : ∀ expected actual, cause ≠ .longRecordMismatch expected actual) :
    (port.ended point (.error cause)).Hears seat lane held := by
  refine ⟨?_, hears.drained, fun asleep => absurd (Port.ended_reading port point _) asleep⟩
  rw [Port.ended_of_other port point other]
  intro matched
  obtain ⟨skip, queue, awaits, follows, accounts⟩ := hears.sound matched
  exact ⟨skip, queue, awaits, follows.stop (.inr sleeping), accounts⟩

/-- A slot that failed, or that its producer gave up, may be closed for good. -/
theorem shut {lane : Lane} (hears : port.Hears seat lane held) (closed : ¬ lane.slot.IsOpen) :
    port.Hears seat (lane.withStatus .done) held := by
  have yields : Yields true true lane.slot held (lane.withStatus .done).slot held [] :=
    .closed rfl (Slot.not_isOpen_of_done rfl)
  refine ⟨hears.sound.still yields port.consumer, fun bound _ => hears.drained bound closed, ?_⟩
  exact fun asleep clear => absurd (.inl (hears.resting asleep clear).2) closed

theorem attach {lane : Lane} (hears : port.Hears seat lane held) (idle : port.reading = none)
    (opened : lane.slot.IsOpen) (session : Session) (consumer : Consumer) :
    ({ port with consumer } : Port).Hears .present
      ⟨{ lane.slot with pid := session.pid }, lane.latch.own session.pid⟩ held := by
  have yields : Yields true true lane.slot held { lane.slot with pid := session.pid } held [] :=
    .alike ⟨rfl, rfl⟩ fun _ => ⟨rfl, rfl⟩
  exact ⟨hears.sound.still yields consumer, fun _ closed => absurd opened closed,
    fun asleep => absurd idle asleep⟩

/-- What becomes of a slot without a reader is not missed by anybody. -/
theorem unattended {before after : Lane} (hears : port.Hears .absent before held)
    (idle : port.reading = none) (rests : before.Rests after) : port.Hears .absent after held :=
  ⟨hears.sound.still (.rests rests fun _ => ⟨rfl, rfl⟩) port.consumer,
    fun bound => absurd rfl bound, fun asleep => absurd idle asleep⟩

end Port.Hears

end RecordExchange
