import RecordExchange.Proofs.Reading

set_option autoImplicit false

/-!
What the counters of a slot say.

A record that was written was read, or is held back, or lies in the buffer. Only one can be in both
places: a long record of which a part lies in the buffer is held back until its last bytes are out.
The counters of the overflow follow what is held back, as long as no attempt to move it fails.
-/

namespace RecordExchange

-- comparing buffers must not run through their cells
attribute [local irreducible] Ring.storeFrom Ring.fetchFrom

/-- All the buffer holds is a part of `record` that others will follow: the length word in front
says how much of the record is left, which is more than the buffer takes at a time, and behind it
lies as much as it takes. -/
def Ring.HasPartOf (r : Ring) (record : Record) : Prop :=
  r.count = .rows 1 ∧ r.chunk < r.readLength.1 ∧ r.readLength.1 ≤ record.length ∧
    (r.readLength.2.get r.chunk).1 = (record.drop (record.length - r.readLength.1)).take r.chunk

instance (r : Ring) (record : Record) : Decidable (r.HasPartOf record) :=
  inferInstanceAs (Decidable (_ ∧ _ ∧ _ ∧ _))

/-- As many records went to the overflow as came back from it and are held back. -/
def Traffic.Settles (t : Traffic) (pending : Nat) : Prop :=
  t.overflowWrites + t.overflowReturns = t.overflowReads + pending

instance (t : Traffic) (pending : Nat) : Decidable (t.Settles pending) :=
  inferInstanceAs (Decidable (_ = _))

namespace Outlet

/-- Records that are held back and lie in the buffer as well: one, if a part of the record that is
held back in front lies there and others will follow it. -/
def halfSent (o : Outlet) : Nat :=
  if ∃ store ∈ o.held, ∃ record ∈ store.front.1, o.lane.slot.ring.HasPartOf record then 1 else 0

/-- The counters account for every record. -/
structure Accounted (o : Outlet) : Prop where
  records : o.lane.slot.traffic.writes + o.halfSent =
    o.lane.slot.traffic.reads + o.pending + o.lane.slot.ring.rows
  overflow : o.lane.slot.traffic.Settles o.pending

instance (o : Outlet) : Decidable o.Accounted :=
  decidable_of_iff (_ ∧ _) ⟨fun both => ⟨both.1, both.2⟩, fun all => ⟨all.1, all.2⟩⟩

end Outlet

/-- What the counters say depends on the buffer, the counters and what is held back. -/
theorem Outlet.Accounted.congr {o after : Outlet} (accounted : o.Accounted)
    (ring : after.lane.slot.ring = o.lane.slot.ring)
    (traffic : after.lane.slot.traffic = o.lane.slot.traffic) (held : after.held = o.held) :
    after.Accounted := by
  obtain ⟨⟨⟨node, pid, status, ring', traffic'⟩, latch⟩, held'⟩ := after
  cases ring
  cases traffic
  cases held
  exact ⟨accounted.records, accounted.overflow⟩

theorem HeldBack.pending {o : Outlet} {records : List Record} (held : HeldBack o.held records) :
    o.pending = records.length := by
  rw [Outlet.pending]
  cases same : o.held with
  | none =>
    rw [same] at held
    rw [held]
    rfl
  | some store =>
    rw [same] at held
    exact OverflowStore.Holds.length held

namespace Ring

variable {r : Ring} {skip : Nat} {record : Record}

theorem CarriesChunk.hasPartOf (carries : r.CarriesChunk skip record) : r.HasPartOf record := by
  obtain ⟨length, behind⟩ := carries.readLength
  have more := carries.more
  have whole : record.length - (record.length - skip) = skip := by omega
  have size : ((record.drop skip).take r.chunk).length = r.chunk := by
    rw [List.length_take, List.length_drop]
    omega
  have part : (r.readLength.2.get r.chunk).1 = (record.drop skip).take r.chunk := by
    rw [← List.append_nil ((record.drop skip).take r.chunk)] at behind
    have taken := behind.get_fst
    rw [size] at taken
    exact taken
  rw [HasPartOf, length, whole]
  exact ⟨carries.count, more, Nat.sub_le _ _, part⟩

/-- A row whose record ends with it is no part that others follow. -/
theorem CarriesRows.not_hasPartOf {records : List Record} (carries : r.CarriesRows skip records)
    (other : Record) : ¬ r.HasPartOf other := by
  rintro ⟨count, more, -⟩
  cases records with
  | nil =>
    have none : r.rows = 0 := carries.rows_eq_zero_iff.mpr rfl
    rw [rows_of_count count] at none
    cases none
  | cons first rest =>
    obtain ⟨length, short, -⟩ := carries.readLength
    omega

theorem CarriesRequest.not_hasPartOf (carries : r.CarriesRequest skip record) (other : Record) :
    ¬ r.HasPartOf other := by
  rintro ⟨count, -⟩
  rw [carries.count] at count
  cases count

theorem CarriesRows.rows_eq {records : List Record} (carries : r.CarriesRows skip records) :
    r.rows = records.length := by
  rw [carries.queues.rows_eq]
  cases records <;> rfl

end Ring

namespace Outlet

variable {o : Outlet} {store : OverflowStore} {t : Transit} {rest queue : List Record} {skip : Nat}

theorem halfSent_eq_zero (whole : ∀ record, ¬ o.lane.slot.ring.HasPartOf record) :
    o.halfSent = 0 := by
  rw [halfSent, if_neg]
  rintro ⟨_, _, record, _, part⟩
  exact whole record part

/-- The records the reader is still to get are those in the buffer and those held back, and the one
that is in both places is one record. -/
theorem queue_length (feeds : Feeds true o.lane.slot o.held t rest)
    (active : o.lane.slot.status = .active) :
    (t.records ++ rest).length + o.halfSent = o.pending + o.lane.slot.ring.rows := by
  have stored := feeds.stored rfl active
  have pending := stored.pending
  rw [List.length_append] at pending ⊢
  cases t with
  | rows skip records =>
    have carries : o.lane.slot.ring.CarriesRows skip records := feeds.carries
    rw [halfSent_eq_zero carries.not_hasPartOf, carries.rows_eq, pending]
    change records.length + rest.length = 0 + rest.length + records.length
    omega
  | request skip record =>
    have carries : o.lane.slot.ring.CarriesRequest skip record := feeds.carries
    rw [halfSent_eq_zero carries.not_hasPartOf, Ring.rows_of_longRecord carries.count, pending]
    rfl
  | chunk skip record =>
    have carries : o.lane.slot.ring.CarriesChunk skip record := feeds.carries
    have half : o.halfSent = 1 := by
      rw [halfSent, if_pos]
      cases held : o.held with
      | none =>
        rw [held] at stored
        cases stored
      | some store =>
        rw [held] at stored
        have front := (OverflowStore.Holds.front stored).1
        exact ⟨store, rfl, record, front, carries.hasPartOf⟩
    rw [half, Ring.rows_of_count carries.count, pending]
    rfl

/-- So the records written are those read and those still to be read. -/
theorem accounted_iff (awaits : Awaits true o.lane.slot o.held skip queue)
    (active : o.lane.slot.status = .active) :
    o.Accounted ↔ o.lane.slot.traffic.writes = o.lane.slot.traffic.reads + queue.length ∧
      o.lane.slot.traffic.Settles o.pending := by
  obtain ⟨t, rest, feeds, -, rfl⟩ := awaits
  have length := queue_length feeds active
  constructor
  · intro accounted
    have records := accounted.records
    exact ⟨by omega, accounted.overflow⟩
  · rintro ⟨records, overflow⟩
    exact ⟨by omega, overflow⟩

end Outlet

namespace Lane

variable {l : Lane} {store : OverflowStore}

theorem push_traffic (l : Lane) (record : Record) :
    (l.push record).slot.traffic = l.slot.traffic := by
  simp only [push]
  split <;> rfl

/-- Every record that leaves the overflow is counted as read from it, and so is one that does not
leave; but that one is counted as returned. -/
theorem dump_traffic {records : List Record} {emptied : Bool} (holds : store.Holds records)
    (result : (l.dump store).2.2 = .ok emptied) :
    (l.dump store).1.slot.traffic.writes = l.slot.traffic.writes ∧
      (l.dump store).1.slot.traffic.reads = l.slot.traffic.reads ∧
      (emptied = true → (l.dump store).2.1.length = 0) ∧
      (l.slot.traffic.Settles records.length →
        (l.dump store).1.slot.traffic.Settles (l.dump store).2.1.length) := by
  induction records generalizing l store with
  | nil =>
    obtain ⟨none, same⟩ := holds.front
    rw [dump_none none]
    refine ⟨rfl, rfl, fun _ => same.length, fun settles => ?_⟩
    rw [same.length]
    exact settles
  | cons record rest ih =>
    obtain ⟨found, same⟩ := holds.front
    have left := same.pop.2
    have moved : l.slot.traffic.Settles (rest.length + 1) →
        l.countOverflowRead.slot.traffic.Settles rest.length := by
      unfold Traffic.Settles
      change _ → l.slot.traffic.overflowWrites + l.slot.traffic.overflowReturns =
        l.slot.traffic.overflowReads + 1 + rest.length
      omega
    have returned : l.slot.traffic.Settles (rest.length + 1) →
        l.countOverflowRead.countOverflowReturn.slot.traffic.Settles store.front.2.length := by
      unfold Traffic.Settles
      rw [same.length, List.length_cons]
      change _ → l.slot.traffic.overflowWrites + (l.slot.traffic.overflowReturns + 1) =
        l.slot.traffic.overflowReads + 1 + (rest.length + 1)
      omega
    rw [dump_some found] at result ⊢
    split at result
    · rename_i fits
      rw [if_pos fits]
      obtain ⟨writes, reads, none, settled⟩ := ih left result
      rw [push_traffic] at writes reads settled
      exact ⟨writes, reads, none, fun settles => settled (moved settles)⟩
    · rename_i full
      rw [if_neg full]
      split at result
      · rename_i empty
        rw [if_pos empty]
        split at result
        · cases result
        · obtain ⟨writes, reads, none, settled⟩ := ih left result
          exact ⟨writes, reads, none, fun settles => settled (moved settles)⟩
        · cases result
          exact ⟨rfl, rfl, fun emptied => absurd emptied Bool.false_ne_true, returned⟩
      · rename_i waiting
        rw [if_neg waiting]
        cases result
        exact ⟨rfl, rfl, fun emptied => absurd emptied Bool.false_ne_true, returned⟩

end Lane

namespace Outlet

/-- From `before` to `after`, `n` records were written and none was read, and the counters of the
overflow followed what is held back. -/
structure Books (n : Nat) (before after : Outlet) : Prop where
  writes : after.lane.slot.traffic.writes = before.lane.slot.traffic.writes + n
  reads : after.lane.slot.traffic.reads = before.lane.slot.traffic.reads
  settles : before.lane.slot.traffic.Settles before.pending →
    after.lane.slot.traffic.Settles after.pending

variable {n : Nat} {o made after : Outlet} {store : OverflowStore} {t : Transit}
  {rest queue records : List Record} {record : Record} {skip : Nat}

theorem Books.refl (o : Outlet) : Books 0 o o := ⟨rfl, rfl, id⟩

theorem Books.trans (first : Books n o made) (second : Books 0 made after) :
    Books n o after :=
  ⟨second.writes.trans first.writes, second.reads.trans first.reads,
    fun settles => second.settles (first.settles settles)⟩

/-- What a step makes of the records a reader is still to get agrees with what it books. -/
theorem Books.accounted (books : Books n o after) (accounted : o.Accounted)
    {records : List Record} (awaits : Awaits true o.lane.slot o.held skip queue)
    (active : o.lane.slot.status = .active)
    (awaited : Awaits true after.lane.slot after.held skip records)
    (still : after.lane.slot.status = .active) (added : records.length = queue.length + n) :
    after.Accounted := by
  obtain ⟨written, settled⟩ := (accounted_iff awaits active).mp accounted
  refine (accounted_iff awaited still).mpr ⟨?_, books.settles settled⟩
  rw [books.writes, books.reads, written, added, Nat.add_assoc]

theorem counted_books (o : Outlet) : Books 1 o o.counted := ⟨rfl, rfl, id⟩

theorem hold_books (o : Outlet) (limit : Nat) (record : Record) :
    Books 0 o (o.hold limit record) := by
  refine ⟨rfl, rfl, fun settles => ?_⟩
  have more : (o.hold limit record).pending = o.pending + 1 := by
    change ((o.held.getD (.empty limit)).push record).length = _
    rw [OverflowStore.push_length, pending]
    cases o.held <;> rfl
  rw [more]
  unfold Traffic.Settles at settles
  change o.lane.slot.traffic.overflowWrites + 1 + o.lane.slot.traffic.overflowReturns =
    o.lane.slot.traffic.overflowReads + (o.pending + 1)
  omega

theorem send_books (o : Outlet) (limit : Nat) (record : Record) :
    Books 0 o (o.send limit record) := by
  unfold send
  split
  · have same := o.lane.push_traffic record
    exact ⟨congrArg Traffic.writes same, congrArg Traffic.reads same, fun settles => by
      rw [same]
      exact settles⟩
  · exact o.hold_books limit record

theorem dump_books {emptied : Bool} (some : o.held = some store) (holds : store.Holds records)
    (result : (o.dump store).2 = .ok emptied) : Books 0 o (o.dump store).1 := by
  have moved : (o.lane.dump store).2.2 = .ok emptied := by
    rw [dump] at result
    split at result
    · rename_i passed
      rw [passed]
      exact result
    · rename_i other passed
      rw [passed]
      exact result
  obtain ⟨writes, reads, none, settled⟩ := Lane.dump_traffic holds moved
  have before : o.pending = records.length := by
    rw [pending, some]
    exact holds.length
  rw [o.dump_held store moved]
  refine ⟨writes, reads, fun settles => ?_⟩
  rw [before] at settles
  have settles := settled settles
  cases emptied with
  | true =>
    rw [none rfl] at settles
    exact settles
  | false => exact settles

section Active

variable (awaits : Awaits true o.lane.slot o.held skip queue)
  (active : o.lane.slot.status = .active)
include awaits active

theorem write_books (limit : Nat) (record : Record) :
    Books 1 o (o.write limit record).1 := by
  obtain ⟨t, rest, feeds, -, -⟩ := awaits
  obtain ⟨open', before⟩ := counted_feeds active feeds
  cases held : o.held with
  | none =>
    rw [write_direct active held]
    exact o.counted_books.trans (send_books ..)
  | some store =>
    have same : o.counted.held = some store := held
    by_cases free : o.counted.lane.slot.isHalfFree = true
    · rw [same] at before
      obtain ⟨emptied, s, left, result, -⟩ := dump_feeds before open'
      have dumped : o.counted.dump store = ((o.counted.dump store).1, .ok emptied) := by
        rw [← result]
      have books := o.counted_books.trans
        (dump_books same (before.stored rfl open') result)
      rw [write_dumped active held free dumped]
      cases emptied with
      | true => exact books.trans (send_books ..)
      | false => exact books.trans (hold_books ..)
    · rw [write_behind active held free]
      exact o.counted_books.trans (hold_books ..)

theorem finish_books : Books 0 o o.finish.1 := by
  obtain ⟨t, rest, feeds, -, -⟩ := awaits
  have still : ¬ o.lane.slot.status ≠ .active := fun closed => closed active
  have woken (p : Outlet) : Books 0 p { p with lane := p.lane.wake } := ⟨rfl, rfl, id⟩
  have ended (p : Outlet) : Books 0 p { p with lane := (p.lane.withStatus .eof).wake } :=
    ⟨rfl, rfl, id⟩
  rw [finish]
  split
  · rename_i none
    simp only [active, ↓reduceIte]
    exact ended o
  · rename_i store some
    simp only [still, ↓reduceIte]
    split
    · rw [some] at feeds
      obtain ⟨emptied, s, left, result, -⟩ := dump_feeds feeds active
      have dumped : o.dump store = ((o.dump store).1, .ok emptied) := by rw [← result]
      have books := dump_books some (feeds.stored rfl active) result
      rw [dumped]
      cases emptied with
      | true => exact books.trans (ended _)
      | false => exact books.trans (woken _)
    · exact .refl o

/-- Writing a record books it once, wherever it goes. -/
theorem Accounted.write (accounted : o.Accounted) (limit : Nat)
    (short : record.length ≤ LengthWord.maxLength) : (o.write limit record).1.Accounted := by
  obtain ⟨-, still, awaited⟩ := write_active active awaits limit short
  exact (write_books awaits active limit record).accounted accounted awaits active awaited still
    List.length_append

/-- Finishing books what it moves out of the overflow, and what it leaves there. -/
theorem Accounted.finish (accounted : o.Accounted)
    (still : o.finish.1.lane.slot.status = .active) : o.finish.1.Accounted := by
  obtain ⟨-, -, awaited⟩ := finish_active awaits active
  exact (finish_books awaits active).accounted accounted awaits active awaited still rfl

end Active

end Outlet

def ReadStep.brings : ReadStep → Nat
  | .ended (.ok (.record _)) => 1
  | _ => 0

/-- What a read brings is what its reader gets less afterwards. -/
theorem Reads.length_eq {slot after : Slot} {skip skip' : Nat} {queue queue' : List Record}
    {point : ReadPoint} {step : ReadStep}
    (reads : Reads slot skip queue point after step skip' queue') :
    queue.length = queue'.length + step.brings := by
  cases reads with
  | takes front => rw [front, List.length_cons]; rfl
  | completes front => rw [front, List.length_cons]; rfl
  | _ => rfl

/-- The slot has had so many reads more. -/
def Slot.HasRead (before after : Slot) (n : Nat) : Prop :=
  after.traffic = { before.traffic with reads := before.traffic.reads + n }

namespace Consumer

variable {c : Consumer} {q : Queue} (inside : c.index < q.consumers)
include inside

theorem abort_hasRead (ring : Ring) :
    (q.lane c.index).slot.HasRead ((c.abort q ring).1.lane c.index).slot
      (c.abort q ring).2.2.brings := by
  unfold Slot.HasRead abort
  rw [Queue.lane_setLane_self inside]
  rfl

theorem deliver_hasRead (ring : Ring) (payload : Record) :
    (q.lane c.index).slot.HasRead ((c.deliver q ring payload).1.lane c.index).slot
      (c.deliver q ring payload).2.2.brings := by
  rcases deliver_cases c q ring payload with ⟨-, made⟩ | ⟨-, made⟩
  · unfold Slot.HasRead
    rw [made, Queue.lane_setLane_self inside]
    rfl
  · rw [made]
    exact abort_hasRead inside _

theorem sleep_hasRead (lane : Lane) (same : lane.slot.traffic = (q.lane c.index).slot.traffic)
    (point : ReadPoint) :
    (q.lane c.index).slot.HasRead ((c.sleep q lane point).1.lane c.index).slot
      (c.sleep q lane point).2.2.brings := by
  unfold Slot.HasRead
  rw [sleep_slot inside]
  exact same

theorem pull_hasRead (ring : Ring) (record : LongRecord) (remaining : Nat) :
    (q.lane c.index).slot.HasRead ((c.pull q ring record remaining).1.lane c.index).slot
      (c.pull q ring record remaining).2.2.brings := by
  unfold pull
  split
  · exact deliver_hasRead inside _ _
  · rename_i left _ _
    split
    · exact sleep_hasRead inside ((q.lane c.index).withRing left) rfl _
    · exact abort_hasRead inside _

theorem fail_hasRead (status : SlotStatus) :
    (q.lane c.index).slot.HasRead ((c.fail q status).1.lane c.index).slot
      (c.fail q status).2.2.brings := by
  unfold Slot.HasRead fail
  split
  · rfl
  · rw [Queue.wakeProducer_lane, Queue.lane_setLane_self inside]
    rfl

/-- A step of a read counts the record it brings, and nothing else. -/
theorem readStep_hasRead (canWait : Bool) (point : ReadPoint) :
    (q.lane c.index).slot.HasRead ((c.readStep canWait point q).1.lane c.index).slot
      (c.readStep canWait point q).2.2.brings := by
  cases point with
  | row =>
    simp only [readStep]
    split
    · split
      · unfold Slot.HasRead
        rw [Queue.wakeProducer_lane, Queue.lane_setLane_self inside]
        rfl
      · split
        · exact sleep_hasRead inside (q.lane c.index) rfl _
        · rfl
      · exact fail_hasRead inside _
    · split
      · exact pull_hasRead inside _ _ _
      · exact deliver_hasRead inside _ _
  | chunk record =>
    simp only [readStep]
    split
    · exact fail_hasRead inside _
    · exact fail_hasRead inside _
    · split
      · exact sleep_hasRead inside (q.lane c.index) rfl _
      · split
        · unfold Slot.HasRead
          rw [Queue.lane_setLane_self inside]
          rfl
        · exact pull_hasRead inside _ _ _

end Consumer

theorem Outlet.Accounted.read {o after : Outlet} {skip : Nat} {queue : List Record}
    {point : ReadPoint} {step : ReadStep} (accounted : o.Accounted)
    (awaits : Awaits true o.lane.slot o.held skip queue) (active : o.lane.slot.status = .active)
    (held : after.held = o.held)
    (advances : Advances true o.held skip queue o.lane.slot point after.lane.slot step)
    (matched : ∀ expected actual, step ≠ .ended (.error (.longRecordMismatch expected actual)))
    (counts : o.lane.slot.HasRead after.lane.slot step.brings)
    (still : after.lane.slot.status = .active) : after.Accounted := by
  obtain ⟨skip', queue', reads, awaited⟩ := advances
  have awaited := awaited matched
  rw [← held] at awaited
  obtain ⟨written, settled⟩ := (accounted_iff awaits active).mp accounted
  have length := reads.length_eq
  have same : after.pending = o.pending := by rw [pending, pending, held]
  refine (accounted_iff awaited still).mpr ⟨?_, ?_⟩
  · rw [counts]
    change o.lane.slot.traffic.writes = o.lane.slot.traffic.reads + step.brings + _
    omega
  · rw [counts, same]
    exact settled

end RecordExchange
