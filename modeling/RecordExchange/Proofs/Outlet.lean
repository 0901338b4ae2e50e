import RecordExchange.Producer
import RecordExchange.Proofs.Overflow
import RecordExchange.Proofs.Ring.Chunks

set_option autoImplicit false

/-!
From a producer's hands into a buffer.

Whatever way a record takes, the records on their way through the buffer followed by those held
back are the records the reader is still to get, in order. Writing adds one at the end; moving what
was held back and announcing the end of the data change nothing about the sequence, and nothing
about how far the record in front got.
-/

namespace RecordExchange

namespace Lane

variable {l : Lane} {store : OverflowStore} {record : Record} {ring : Ring}

/-- Pushing changes the buffer; whether the reader is woken does not matter to it. -/
theorem push_ring (l : Lane) (record : Record) :
    (l.push record).slot.ring = (l.slot.ring.push record).1 := by
  simp only [push]
  split <;> rfl

theorem push_status (l : Lane) (record : Record) :
    (l.push record).slot.status = l.slot.status := by
  simp only [push]
  split <;> rfl

theorem dump_none (none : store.front.1 = none) :
    l.dump store = (l, store.front.2, .ok true) := by
  rw [dump]
  split
  · rfl
  · rename_i record found
    rw [none] at found
    cases found

theorem dump_some (found : store.front.1 = some record) :
    l.dump store =
      if l.slot.ring.fits record.length then
        (l.countOverflowRead.push record).dump store.front.2.pop.2
      else if l.slot.ring.rows = 0 then
        match l.slot.ring.pushLong record with
        | .error cause => (l.countOverflowRead, store.front.2, .error cause)
        | .ok (ring, true) =>
          (l.countOverflowRead.withRing ring).wake.dump store.front.2.pop.2
        | .ok (ring, false) =>
          ((l.countOverflowRead.withRing ring).wake.countOverflowReturn, store.front.2, .ok false)
      else (l.countOverflowRead.countOverflowReturn, store.front.2, .ok false) := by
  rw [dump]
  split
  · rename_i none
    rw [none] at found
    cases found
  · rename_i other seen
    rw [found] at seen
    cases seen
    rfl

end Lane

/-- What the producer holds back for a slot are these records. -/
def HeldBack (held : Option OverflowStore) (records : List Record) : Prop :=
  match held with
  | none => records = []
  | some store => store.Holds records

/-- The slot's buffer carries `t`, and `rest` is what the reader gets after that. The producer holds
back what it has not put out yet, as long as it `keeps` anything; at the end of the data it has put
out everything. In a slot that failed or is done, `rest` is lost. -/
structure Feeds (keeps : Bool) (slot : Slot) (held : Option OverflowStore) (t : Transit)
    (rest : List Record) : Prop where
  carries : slot.ring.Carries t
  stored : keeps = true → slot.status = .active → HeldBack held (t.unfinished ++ rest)
  ended : slot.status = .eof → t.unfinished = [] ∧ rest = []

namespace Lane

variable {l : Lane} {store : OverflowStore} {t : Transit} {rest : List Record}

/-- What moving records from the overflow into a buffer comes to: no failure, and the same sequence
of records as before. -/
structure Dumped (status : SlotStatus) (skip : Nat) (queue : List Record)
    (after : Lane × OverflowStore × Except Error Bool) (emptied : Bool) (t : Transit)
    (rest : List Record) : Prop where
  result : after.2.2 = .ok emptied
  status : after.1.slot.status = status
  carries : after.1.slot.ring.Carries t
  holds : after.2.1.Holds (t.unfinished ++ rest)
  skip : t.skip = skip
  queue : t.records ++ rest = queue
  cleared : emptied = true → t.unfinished ++ rest = []

/-- Behind complete rows, records go into the buffer one by one until one does not fit; if that one
is long and the buffer empty, its first chunk goes. -/
theorem dump_rows {skip : Nat} {records : List Record}
    (carries : l.slot.ring.CarriesRows skip records) (holds : store.Holds rest) :
    ∃ emptied t left,
      Dumped l.slot.status skip (records ++ rest) (l.dump store) emptied t left := by
  induction rest generalizing l store records with
  | nil =>
    obtain ⟨none, same⟩ := holds.front
    rw [dump_none none]
    exact ⟨true, .rows skip records, [], rfl, rfl, carries, same, rfl, rfl, fun _ => rfl⟩
  | cons record rest ih =>
    obtain ⟨found, same⟩ := holds.front
    have short := holds.short record (List.mem_cons_self ..)
    rw [dump_some found]
    split
    · rename_i fits
      have pushed : (l.countOverflowRead.push record).slot.ring.CarriesRows skip
          (records ++ [record]) := by
        rw [push_ring]
        exact carries.push fits short
      have status : (l.countOverflowRead.push record).slot.status = l.slot.status :=
        push_status l.countOverflowRead record
      obtain ⟨emptied, t, left, dumped⟩ := ih pushed same.pop.2
      rw [status, List.append_assoc] at dumped
      exact ⟨emptied, t, left, dumped⟩
    · rename_i full
      split
      · rename_i none
        obtain rfl := carries.rows_eq_zero_iff.mp none
        have whole : skip = 0 := carries.skip_eq_zero
        subst whole
        have long : l.slot.ring.chunk < record.length := carries.isLong_of_not_fits full
        obtain ⟨sent, pushed, capacity, carried⟩ := carries.pushLong long short
        rw [pushed]
        exact ⟨false, .chunk 0 record, rest, rfl, rfl, carried, same, rfl, rfl,
          fun impossible => Bool.noConfusion impossible⟩
      · exact ⟨false, .rows skip records, record :: rest, rfl, rfl, carries, same, rfl, rfl,
          fun impossible => Bool.noConfusion impossible⟩

theorem dump_chunk {skip : Nat} {record : Record} (carries : l.slot.ring.CarriesChunk skip record)
    (holds : store.Holds (record :: rest)) :
    ∃ emptied t left,
      Dumped l.slot.status skip (record :: rest) (l.dump store) emptied t left := by
  obtain ⟨found, same⟩ := holds.front
  have rows : l.slot.ring.rows ≠ 0 := by
    rw [Ring.rows_of_count carries.count]
    exact Nat.one_ne_zero
  rw [dump_some found, carries.not_fits]
  simp only [Bool.false_eq_true, rows, ↓reduceIte]
  exact ⟨false, .chunk skip record, rest, rfl, rfl, carries, same, rfl, rfl,
    fun impossible => Bool.noConfusion impossible⟩

/-- A request is answered with the next chunk; after the last one the other records follow. -/
theorem dump_request {skip : Nat} {record : Record}
    (carries : l.slot.ring.CarriesRequest skip record) (holds : store.Holds (record :: rest)) :
    ∃ emptied t left,
      Dumped l.slot.status skip (record :: rest) (l.dump store) emptied t left := by
  obtain ⟨found, same⟩ := holds.front
  obtain ⟨sent, pushed, capacity, last, more⟩ := carries.pushLong
  rw [dump_some found, carries.not_fits]
  simp only [Bool.false_eq_true, Ring.rows_of_longRecord carries.count, ↓reduceIte]
  rw [pushed]
  by_cases final : record.length - skip ≤ l.slot.ring.chunk
  · rw [decide_eq_true final]
    exact dump_rows (l := (l.countOverflowRead.withRing sent).wake) (last final) same.pop.2
  · rw [decide_eq_false final]
    exact ⟨false, .chunk skip record, rest, rfl, rfl, more (by omega), same, rfl, rfl,
      fun impossible => Bool.noConfusion impossible⟩

theorem dump_carries (carries : l.slot.ring.Carries t)
    (holds : store.Holds (t.unfinished ++ rest)) :
    ∃ emptied s left,
      Dumped l.slot.status t.skip (t.records ++ rest) (l.dump store) emptied s left := by
  cases t with
  | rows skip records => exact dump_rows carries holds
  | chunk skip record => exact dump_chunk carries holds
  | request skip record => exact dump_request carries holds

end Lane

/-- The reader of a slot is still to get the records `queue`, the first of them without the `skip`
bytes that went before. -/
def Awaits (keeps : Bool) (slot : Slot) (held : Option OverflowStore) (skip : Nat)
    (queue : List Record) : Prop :=
  ∃ t rest, Feeds keeps slot held t rest ∧ t.skip = skip ∧ t.records ++ rest = queue

namespace Outlet

variable {o : Outlet} {store : OverflowStore} {t : Transit} {rest queue : List Record}
  {record : Record} {skip : Nat}

theorem dump_held (o : Outlet) (store : OverflowStore) {emptied : Bool}
    (result : (o.lane.dump store).2.2 = .ok emptied) :
    o.dump store =
      (⟨(o.lane.dump store).1, if emptied then none else some (o.lane.dump store).2.1⟩,
        .ok emptied) := by
  have split : o.lane.dump store =
      ((o.lane.dump store).1, (o.lane.dump store).2.1, .ok emptied) := by
    rw [← result]
  rw [Outlet.dump, split]
  cases emptied <;> rfl

theorem dump_feeds (feeds : Feeds true o.lane.slot (some store) t rest)
    (active : o.lane.slot.status = .active) :
    ∃ emptied s left, (o.dump store).2 = .ok emptied ∧
      (o.dump store).1.lane.slot.status = .active ∧
      Feeds true (o.dump store).1.lane.slot (o.dump store).1.held s left ∧
      s.skip = t.skip ∧ s.records ++ left = t.records ++ rest ∧
      (emptied = true → s.unfinished ++ left = [] ∧ (o.dump store).1.held = none) := by
  obtain ⟨emptied, s, left, dumped⟩ := Lane.dump_carries feeds.carries (feeds.stored rfl active)
  have status : (o.lane.dump store).1.slot.status = .active := dumped.status.trans active
  rw [o.dump_held store dumped.result]
  refine ⟨emptied, s, left, rfl, status, ⟨dumped.carries, ?_, ?_⟩, dumped.skip, dumped.queue, ?_⟩
  · intro _ _
    cases emptied with
    | true => exact dumped.cleared rfl
    | false => exact dumped.holds
  · intro ended
    rw [status] at ended
    cases ended
  · intro all
    rw [all]
    exact ⟨dumped.cleared all, rfl⟩

theorem hold_feeds (feeds : Feeds true o.lane.slot o.held t rest)
    (active : o.lane.slot.status = .active) (limit : Nat)
    (short : record.length ≤ LengthWord.maxLength) :
    Feeds true (o.hold limit record).lane.slot (o.hold limit record).held t (rest ++ [record]) := by
  refine ⟨feeds.carries, ?_, ?_⟩
  · intro _ _
    have stored := feeds.stored rfl active
    rw [← List.append_assoc]
    change ((o.held.getD (.empty limit)).push record).Holds _
    apply OverflowStore.Holds.push _ short
    cases some : o.held with
    | none =>
      rw [some] at stored
      rw [stored]
      exact OverflowStore.empty_holds limit
    | some store =>
      rw [some] at stored
      exact stored
  · intro ended
    change o.lane.slot.status = .eof at ended
    rw [active] at ended
    cases ended

/-- With nothing held back, a record goes straight into the buffer, or becomes the first one held
back. -/
theorem send_feeds (feeds : Feeds true o.lane.slot none t rest) (empty : o.held = none)
    (active : o.lane.slot.status = .active) (limit : Nat)
    (short : record.length ≤ LengthWord.maxLength) :
    (o.send limit record).lane.slot.status = .active ∧
      Awaits true (o.send limit record).lane.slot (o.send limit record).held t.skip
        (t.records ++ rest ++ [record]) := by
  have nothing : t.unfinished ++ rest = [] := feeds.stored rfl active
  unfold send
  split
  · rename_i fits
    have status : (o.lane.push record).slot.status = .active :=
      (Lane.push_status o.lane record).trans active
    refine ⟨status, ?_⟩
    cases t with
    | chunk skip first => cases nothing
    | request skip first => cases nothing
    | rows skip records =>
      have none : rest = [] := nothing
      have pushed : (o.lane.push record).slot.ring.CarriesRows skip (records ++ [record]) := by
        rw [Lane.push_ring]
        exact Ring.CarriesRows.push feeds.carries fits short
      refine ⟨.rows skip (records ++ [record]), [], ⟨pushed, fun _ _ => empty ▸ rfl, ?_⟩, rfl, ?_⟩
      · intro ended
        rw [status] at ended
        cases ended
      · rw [none, List.append_nil, List.append_nil]
        rfl
  · rw [← empty] at feeds
    refine ⟨active, t, rest ++ [record], hold_feeds feeds active limit short, rfl, ?_⟩
    rw [List.append_assoc]

def counted (o : Outlet) : Outlet := { o with lane := o.lane.countWrite }

section Write

variable (active : o.lane.slot.status = .active)
include active

theorem counted_feeds (feeds : Feeds true o.lane.slot o.held t rest) :
    o.counted.lane.slot.status = .active ∧
      Feeds true o.counted.lane.slot o.counted.held t rest :=
  ⟨active, feeds.carries, feeds.stored, feeds.ended⟩

theorem write_direct (empty : o.held = none) (limit : Nat) (record : Record) :
    o.write limit record = (o.counted.send limit record, .ok ()) := by
  have still : ¬ o.lane.countWrite.slot.status ≠ .active := fun closed => closed active
  simp only [write, still, empty, counted, ↓reduceIte]

theorem write_behind (some : o.held = some store)
    (full : ¬ o.counted.lane.slot.isHalfFree = true) (limit : Nat) (record : Record) :
    o.write limit record = (o.counted.hold limit record, .ok ()) := by
  have still : ¬ o.lane.countWrite.slot.status ≠ .active := fun closed => closed active
  rw [counted] at full
  simp only [write, still, some, full, counted, Bool.false_eq_true, ↓reduceIte]

theorem write_dumped (some : o.held = some store)
    (free : o.counted.lane.slot.isHalfFree = true) {after : Outlet} {emptied : Bool}
    (dumped : o.counted.dump store = (after, .ok emptied)) (limit : Nat) (record : Record) :
    o.write limit record =
      (if emptied then after.send limit record else after.hold limit record, .ok ()) := by
  have still : ¬ o.lane.countWrite.slot.status ≠ .active := fun closed => closed active
  rw [counted, some] at free dumped
  simp only [write, still, some, free, dumped, ↓reduceIte]
  cases emptied <;> rfl

/-- A record written to an active slot is the last one its reader gets. -/
theorem write_active (awaits : Awaits true o.lane.slot o.held skip queue) (limit : Nat)
    (short : record.length ≤ LengthWord.maxLength) :
    (o.write limit record).2 = .ok () ∧ (o.write limit record).1.lane.slot.status = .active ∧
      Awaits true (o.write limit record).1.lane.slot (o.write limit record).1.held skip
        (queue ++ [record]) := by
  obtain ⟨t, rest, feeds, rfl, rfl⟩ := awaits
  obtain ⟨open', before⟩ := counted_feeds active feeds
  cases held : o.held with
  | none =>
    have same : o.counted.held = none := held
    rw [same] at before
    rw [write_direct active held]
    exact ⟨rfl, send_feeds before same open' limit short⟩
  | some store =>
    have same : o.counted.held = some store := held
    by_cases free : o.counted.lane.slot.isHalfFree = true
    · rw [same] at before
      obtain ⟨emptied, s, left, result, status, moved, skip, queue, cleared⟩ :=
        dump_feeds before open'
      have dumped : o.counted.dump store = ((o.counted.dump store).1, .ok emptied) := by
        rw [← result]
      rw [write_dumped active held free dumped, ← skip, ← queue]
      cases emptied with
      | true =>
        obtain ⟨nothing, none⟩ := cleared rfl
        rw [none] at moved
        exact ⟨rfl, send_feeds moved none status limit short⟩
      | false =>
        exact ⟨rfl, status, s, left ++ [record], hold_feeds moved status limit short, rfl,
          (List.append_assoc ..).symm⟩
    · rw [write_behind active held free]
      exact ⟨rfl, open', t, rest ++ [record], hold_feeds before open' limit short, rfl,
        (List.append_assoc ..).symm⟩

end Write

theorem write_closed (closed : o.lane.slot.status ≠ .active) (limit : Nat) (record : Record) :
    o.write limit record = (⟨o.lane.countWrite, none⟩, .ok ()) := by
  have still : o.lane.countWrite.slot.status ≠ .active := closed
  rw [write]
  simp only [still, ne_eq, not_false_eq_true, ↓reduceIte]

theorem feeds_eof (feeds : Feeds true o.lane.slot o.held t rest)
    (nothing : t.unfinished ++ rest = []) (held : Option OverflowStore) :
    Feeds true (o.lane.withStatus .eof).wake.slot held t rest := by
  obtain ⟨sent, none⟩ := List.append_eq_nil_iff.mp nothing
  exact ⟨feeds.carries, fun _ active => SlotStatus.noConfusion active, fun _ => ⟨sent, none⟩⟩

theorem finish_active (awaits : Awaits true o.lane.slot o.held skip queue)
    (active : o.lane.slot.status = .active) :
    (∃ pending, o.finish.2 = .ok pending) ∧
      (o.finish.1.lane.slot.status = .active ∨ o.finish.1.lane.slot.status = .eof) ∧
      Awaits true o.finish.1.lane.slot o.finish.1.held skip queue := by
  obtain ⟨t, rest, feeds, rfl, rfl⟩ := awaits
  have still : ¬ o.lane.slot.status ≠ .active := fun closed => closed active
  rw [finish]
  split
  · rename_i none
    have nothing : t.unfinished ++ rest = [] := by
      have stored := feeds.stored rfl active
      rw [none] at stored
      exact stored
    simp only [active, ↓reduceIte]
    exact ⟨⟨0, rfl⟩, .inr rfl, t, rest, feeds_eof feeds nothing _, rfl, rfl⟩
  · rename_i store some
    simp only [still, ↓reduceIte]
    split
    · rw [some] at feeds
      obtain ⟨emptied, s, left, result, status, moved, skip, queue, cleared⟩ :=
        dump_feeds feeds active
      have dumped : o.dump store = ((o.dump store).1, .ok emptied) := by rw [← result]
      rw [dumped]
      cases emptied with
      | true =>
        exact ⟨⟨0, rfl⟩, .inr rfl, s, left, feeds_eof moved (cleared rfl).1 _, skip, queue⟩
      | false =>
        exact ⟨⟨1, rfl⟩, .inl status, s, left, ⟨moved.carries, moved.stored, moved.ended⟩, skip,
          queue⟩
    · exact ⟨⟨1, rfl⟩, .inl active, t, rest, feeds, rfl, rfl⟩

theorem finish_closed (closed : o.lane.slot.status ≠ .active) :
    o.finish = (⟨o.lane, none⟩, .ok 0) := by
  rw [finish]
  split
  · rename_i none
    simp only [closed, ↓reduceIte]
    rw [← none]
  · simp only [closed, ne_eq, not_false_eq_true, ↓reduceIte]

end Outlet

end RecordExchange
