import RecordExchange.Proofs.Exchange.Sound

set_option autoImplicit false

/-!
What each operation of the producer does to one slot.

Writing adds a record, moving and finishing add none; a slot that is closed keeps its buffer, or is
emptied. Each operation is one of these for every slot.
-/

namespace RecordExchange

namespace Yields

variable {keeps keeps' : Bool} {before after : Slot} {held held' : Option OverflowStore}

/-- A producer that keeps what it holds back may as well stop keeping it. -/
theorem weaken {added : List Record} (yields : Yields keeps true before held after held' added)
    (keeps' : Bool) : Yields keeps keeps' before held after held' added := by
  have loosen (skip : Nat) (queue : List Record) (awaits : Awaits true after held' skip queue) :
      Awaits keeps' after held' skip queue := by
    obtain ⟨t, rest, feeds, same, order⟩ := awaits
    exact ⟨t, rest, ⟨feeds.carries, fun _ => feeds.stored rfl, feeds.ended⟩, same, order⟩
  refine ⟨?_, yields.opened, yields.spent⟩
  intro skip queue awaits
  rcases yields.awaits skip queue awaits with fed | ⟨none, cleared, spent⟩
  · exact .inl (loosen _ _ fed)
  · exact .inr ⟨none, loosen _ _ cleared, spent⟩

theorem alike (alike : before.Alike after) (kept : keeps' = true → keeps = true ∧ held' = held) :
    Yields keeps keeps' before held after held' [] := by
  refine ⟨?_, alike.isOpen, alike.isSpent⟩
  intro skip queue awaits
  obtain ⟨t, rest, feeds, same, order⟩ := awaits
  left
  rw [List.append_nil]
  refine ⟨t, rest, ⟨alike.ring ▸ feeds.carries, ?_, alike.status ▸ feeds.ended⟩, same, order⟩
  intro still active
  obtain ⟨keeping, rfl⟩ := kept still
  exact feeds.stored keeping (alike.status ▸ active)

/-- Where nothing can be put out any more, what is held back does not matter. -/
theorem dropped (closed : before.status ≠ .active) (alike : before.Alike after) :
    Yields keeps keeps' before held after held' [] := by
  refine ⟨?_, alike.isOpen, alike.isSpent⟩
  intro skip queue awaits
  obtain ⟨t, rest, feeds, same, order⟩ := awaits
  left
  rw [List.append_nil]
  exact ⟨t, rest, ⟨alike.ring ▸ feeds.carries,
    fun _ active => absurd (alike.status ▸ active) closed, alike.status ▸ feeds.ended⟩, same, order⟩

theorem closed (ring : after.ring = before.ring) (closed : ¬ after.IsOpen) :
    Yields keeps keeps' before held after held' [] := by
  refine ⟨?_, fun opened => absurd opened closed, fun spent => ⟨closed, ring ▸ spent.none⟩⟩
  intro skip queue awaits
  obtain ⟨t, rest, feeds, same, order⟩ := awaits
  left
  rw [List.append_nil]
  exact ⟨t, rest, ⟨ring ▸ feeds.carries, fun _ active => absurd (.inl active) closed,
    fun ended => absurd (.inr ended) closed⟩, same, order⟩

theorem cleared (ring : after.ring = before.ring.discard) (closed : ¬ after.IsOpen) :
    Yields keeps keeps' before held after held' [] := by
  have spent : after.IsSpent := ⟨closed, by rw [ring]; rfl⟩
  refine ⟨?_, fun opened => absurd opened closed, fun _ => spent⟩
  intro skip queue awaits
  obtain ⟨t, rest, feeds, -, -⟩ := awaits
  have room : LengthWord.size < before.ring.capacity := feeds.carries.room
  have empty : after.ring.CarriesRows 0 [] := by
    rw [ring]
    exact Ring.carriesRows_nil room rfl (Nat.zero_lt_of_lt room) rfl
  exact .inr ⟨rfl, ⟨.rows 0 [], queue, ⟨empty, fun _ active => absurd (.inl active) closed,
    fun ended => absurd (.inr ended) closed⟩, rfl, rfl⟩, spent⟩

theorem write {o : Outlet} (active : o.lane.slot.status = .active) (limit : Nat) {record : Record}
    (short : record.length ≤ LengthWord.maxLength) :
    Yields true true o.lane.slot o.held (o.write limit record).1.lane.slot
      (o.write limit record).1.held [record] := by
  refine ⟨?_, fun _ => .inl active, fun spent => absurd (.inl active) spent.closed⟩
  intro skip queue awaits
  exact .inl (Outlet.write_active active awaits limit short).2.2

theorem write_closed {o : Outlet} (closed : o.lane.slot.status ≠ .active) (limit : Nat)
    (record : Record) :
    Yields true true o.lane.slot o.held (o.write limit record).1.lane.slot
      (o.write limit record).1.held [] := by
  rw [Outlet.write_closed closed]
  exact dropped closed ⟨rfl, rfl⟩

/-- A write fails only where the buffer does not carry what it should. -/
theorem write_failed {o : Outlet} {limit : Nat} {record : Record} {cause : Error}
    (short : record.length ≤ LengthWord.maxLength)
    (failed : (o.write limit record).2 = .error cause) :
    Yields true true o.lane.slot o.held (o.write limit record).1.lane.slot
      (o.write limit record).1.held [] := by
  have active : o.lane.slot.status = .active := by
    by_cases active : o.lane.slot.status = .active
    · exact active
    · rw [Outlet.write_closed active] at failed
      cases failed
  refine ⟨?_, fun _ => .inl active, fun spent => absurd (.inl active) spent.closed⟩
  intro skip queue awaits
  rw [(Outlet.write_active active awaits limit short).1] at failed
  cases failed

theorem finish (o : Outlet) :
    Yields true true o.lane.slot o.held o.finish.1.lane.slot o.finish.1.held [] := by
  by_cases active : o.lane.slot.status = .active
  · refine ⟨?_, fun _ => .inl active, fun spent => absurd (.inl active) spent.closed⟩
    intro skip queue awaits
    left
    rw [List.append_nil]
    exact (Outlet.finish_active awaits active).2.2
  · rw [Outlet.finish_closed active]
    exact dropped active ⟨rfl, rfl⟩

end Yields

end RecordExchange
