import RecordExchange.Proofs.Queue.Attendance

set_option autoImplicit false

/-!
Slots that nobody reads from.

A chunk of a long record is asked for by readers alone, and a slot that is asked for one has a
reader. So what is held back for a slot without one never fails to go on, whatever was begun; and
giving such a slot up leaves it done and empty.
-/

namespace RecordExchange

/-- A slot that is asked for a chunk is attended. -/
def Slot.AsksAttended (s : Slot) : Prop := s.ring.count = .longRecord → s.Attended

/-- Nobody reads from the slot: it is done, or nobody attached to it and asked for a chunk. -/
def Slot.Deserted (s : Slot) : Prop := s.status = .done ∨ s.pid = 0 ∧ s.ring.count ≠ .longRecord

theorem Slot.AsksAttended.deserted {s : Slot} (asks : s.AsksAttended)
    (left : s.status = .done ∨ s.pid = 0) : s.Deserted := by
  rcases left with done | free
  · exact .inl done
  · by_cases asked : s.ring.count = .longRecord
    · exact .inl ((asks asked).resolve_left (not_not.mpr free))
    · exact .inr ⟨free, asked⟩

namespace Ring

variable {r ring : Ring} {record : Record}

theorem push_not_asked (r : Ring) (record : Record) : (r.push record).1.count ≠ .longRecord :=
  TupleCount.noConfusion

theorem pushLong_not_asked {last : Bool} (pushed : r.pushLong record = .ok (ring, last)) :
    ring.count ≠ .longRecord := by
  unfold pushLong at pushed
  split at pushed
  · obtain ⟨rfl, -⟩ := Prod.mk.inj (Except.ok.inj pushed)
    exact TupleCount.noConfusion
  · dsimp only at pushed
    split at pushed
    · cases pushed
    · obtain ⟨rfl, -⟩ := Prod.mk.inj (Except.ok.inj pushed)
      exact TupleCount.noConfusion
  · rename_i rows counted
    obtain ⟨rfl, -⟩ := Prod.mk.inj (Except.ok.inj pushed)
    rw [counted]
    exact TupleCount.noConfusion

/-- Only a chunk that was asked for may fail to go on. -/
theorem pushLong_error {cause : Error} (failed : r.pushLong record = .error cause) :
    r.count = .longRecord := by
  unfold pushLong at failed
  split at failed
  · cases failed
  · assumption
  · cases failed

end Ring

namespace Lane

variable {l m n : Lane}

theorem push_not_asked (l : Lane) (record : Record) :
    (l.push record).slot.ring.count ≠ .longRecord := by
  rw [push_ring]
  exact l.slot.ring.push_not_asked record

theorem asked_strokes : Producer.Strokes fun l m =>
    m.slot.ring.count = .longRecord → l.slot.ring.count = .longRecord where
  refl _ := id
  trans first second := first ∘ second
  counts _ _ := id
  pushes l record asked := absurd asked (l.push_not_asked record)
  sends sent asked := absurd asked (Ring.pushLong_not_asked sent)
  wakes _ := id
  ends _ := id

/-- Moving what is held back cannot fail where no chunk was asked for. -/
theorem dump_unasked (l : Lane) (store : OverflowStore)
    (unasked : l.slot.ring.count ≠ .longRecord) :
    ∃ emptied, (l.dump store).2.2 = .ok emptied := by
  fun_induction Lane.dump l store with
  | case1 => exact ⟨true, rfl⟩
  | case2 l store record _ counted _ ih => exact ih (counted.push_not_asked record)
  | case3 l store record _ counted _ _ cause failed =>
    exact absurd (Ring.pushLong_error failed) unasked
  | case4 l store record _ counted _ _ ring pushed ih => exact ih (Ring.pushLong_not_asked pushed)
  | case5 => exact ⟨false, rfl⟩
  | case6 => exact ⟨false, rfl⟩

/-- The slot keeps its holder, stays done once it is, and is not asked for a chunk. -/
structure AsksNothing (before after : Lane) : Prop where
  pid : after.slot.pid = before.slot.pid
  done : before.slot.status = .done → after.slot.status = .done
  asked : after.slot.ring.count = .longRecord → before.slot.ring.count = .longRecord

theorem AsksNothing.deserted (works : l.AsksNothing m) (deserted : l.slot.Deserted) :
    m.slot.Deserted := by
  rcases deserted with done | ⟨free, unasked⟩
  · exact .inl (works.done done)
  · exact .inr ⟨works.pid.trans free, fun asked => unasked (works.asked asked)⟩

theorem AsksNothing.asksAttended (works : l.AsksNothing m) (asks : l.slot.AsksAttended) :
    m.slot.AsksAttended := by
  intro asked
  rcases asks (works.asked asked) with held | done
  · exact .inl (works.pid ▸ held)
  · exact .inr (works.done done)

/-- A slot that was done stays as it is, and one that is done from now on is empty. -/
structure Empties (before after : Lane) : Prop where
  spent : before.slot.status = .done →
    after.slot.status = .done ∧ after.slot.ring = before.slot.ring
  emptied : after.slot.status = .done →
    before.slot.status = .done ∨ after.slot.ring.count = .empty

theorem Empties.refl (l : Lane) : l.Empties l := ⟨fun done => ⟨done, rfl⟩, .inl⟩

theorem Empties.trans (first : l.Empties m) (second : m.Empties n) : l.Empties n := by
  refine ⟨fun done => ?_, fun done => ?_⟩
  · obtain ⟨still, ring⟩ := first.spent done
    exact (second.spent still).imp id fun same => same.trans ring
  · rcases second.emptied done with before | empty
    · exact (first.emptied before).imp id fun empty => by rw [(second.spent before).2, empty]
    · exact .inr empty

theorem Empties.of_slot (same : m.slot = l.slot) : l.Empties m := by
  refine ⟨fun done => ?_, fun done => .inl ?_⟩
  · rw [same]
    exact ⟨done, rfl⟩
  · rw [← same]
    exact done

end Lane

namespace Outlet

variable {o : Outlet}

/-- What is held back for a slot that nobody reads from does not fail to go on. -/
theorem finish_deserted (deserted : o.lane.slot.Deserted) : ∃ n, o.finish.2 = .ok n := by
  by_cases active : o.lane.slot.status = .active
  · have undone : o.lane.slot.status ≠ .done := by
      rw [active]
      exact SlotStatus.noConfusion
    have unasked := (deserted.resolve_left undone).2
    unfold finish
    split
    · split
      · exact ⟨0, rfl⟩
      · exact ⟨0, rfl⟩
    · rename_i store _
      obtain ⟨emptied, passed⟩ := o.lane.dump_unasked store unasked
      split
      · exact ⟨0, rfl⟩
      · split
        · rw [o.dump_held store passed]
          cases emptied with
          | true => exact ⟨0, rfl⟩
          | false => exact ⟨1, rfl⟩
        · exact ⟨1, rfl⟩
  · exact ⟨0, by rw [finish_closed active]⟩

theorem finishAll_none {outlets : List Outlet} (none : ∀ o ∈ outlets, o.finish.2 = .ok 0) :
    (finishAll outlets).2 = .ok 0 := by
  induction outlets with
  | nil => rfl
  | cons first rest ih =>
    have own : first.finish = (first.finish.1, .ok 0) := by
      rw [← none first (List.mem_cons_self ..)]
    rw [finishAll, own]
    simp only [ih fun o member => none o (List.mem_cons_of_mem _ member), Except.map]

theorem finish_empties_lane (o : Outlet) : o.lane.Empties o.finish.1.lane := by
  by_cases done : o.lane.slot.status = .done
  · have closed : o.lane.slot.status ≠ .active := by
      rw [done]
      exact SlotStatus.noConfusion
    rw [finish_closed closed]
    exact .refl o.lane
  · exact ⟨fun before => absurd before done, fun after => absurd after (finish_status o done)⟩

end Outlet

theorem Lane.asksNothing_obeys : Producer.Obeys Lane.AsksNothing where
  refl _ := ⟨rfl, id, id⟩
  trans first second := ⟨second.pid.trans first.pid, fun done => second.done (first.done done),
    fun asked => first.asked (second.asked asked)⟩
  writes o limit record :=
    ⟨congrArg Session.pid (Outlet.write_holder o limit record),
      (Outlet.write_proceeds o limit record).done_of_done,
      Lane.asked_strokes.write o limit record⟩
  finishes o :=
    ⟨congrArg Session.pid (Outlet.finish_holder o), (Outlet.finish_proceeds o).done_of_done,
      Lane.asked_strokes.finish o⟩
  fails unfinished :=
    ⟨rfl, (Lane.proceeds_obeys.fails unfinished).done_of_done, TupleCount.noConfusion⟩
  givesUp _ := ⟨rfl, fun _ => rfl, TupleCount.noConfusion⟩
  sweeps failed l := by
    refine ⟨congrArg Session.pid (Producer.sweepLane_holder failed l),
      (Lane.proceeds_obeys.sweeps failed l).done_of_done, fun asked => ?_⟩
    rcases Producer.sweepLane_slot failed l with same | ⟨ring, -⟩
    · rw [← same]
      exact asked
    · rw [← ring]
      exact asked

/-- A producer leaves done slots alone, and those that it gives up are empty. -/
theorem Lane.empties_obeys : Producer.Obeys Lane.Empties where
  refl := .refl
  trans := .trans
  writes o limit record := by
    refine ⟨fun done => ?_, fun done => .inl ((o.write_status limit record).symm.trans done)⟩
    have closed : o.lane.slot.status ≠ .active := by
      rw [done]
      exact SlotStatus.noConfusion
    rw [Outlet.write_closed closed]
    exact ⟨done, rfl⟩
  finishes := Outlet.finish_empties_lane
  fails unfinished := by
    refine ⟨fun done => ?_, SlotStatus.noConfusion⟩
    rcases unfinished with active | failed
    · rw [active] at done
      cases done
    · rw [failed] at done
      cases done
  givesUp unattached := by
    refine ⟨fun done => ?_, fun _ => .inr rfl⟩
    rw [Producer.isUnattached, Bool.and_eq_true, bne_iff_ne] at unattached
    exact absurd done unattached.2
  sweeps failed l := by
    by_cases active : l.slot.status = .active
    · cases failed with
      | true =>
        simp only [Producer.sweepLane, active, ↓reduceIte]
        exact ⟨fun done => SlotStatus.noConfusion (active.symm.trans done), SlotStatus.noConfusion⟩
      | false =>
        simp only [Producer.sweepLane, active, Bool.false_eq_true, ↓reduceIte]
        exact .of_slot rfl
    · apply Empties.of_slot
      simp only [Producer.sweepLane, active, ↓reduceIte]
      split
      · rfl
      · split
        · rfl
        · rfl

theorem Lane.Rests.asksAttended {l m : Lane} (rests : l.Rests m) (attends : l.Attends m)
    (asks : l.slot.AsksAttended) : m.slot.AsksAttended := by
  intro asked
  cases rests with
  | stays alike => exact attends (asks (alike.ring ▸ asked))
  | closes done => exact .inr done

/-- What sessions do leaves a slot that is asked for a chunk attended. -/
theorem Lane.asksAttended_sessions :
    Queue.SessionsObey fun l m => l.slot.AsksAttended → m.slot.AsksAttended where
  refl _ := id
  takesUp q session consumerNodes nodes i inside :=
    Lane.Rests.asksAttended (rests_sessions.takesUp q session consumerNodes nodes i inside)
      (attends_others.takesUp q session consumerNodes nodes i inside)
  attaches q session name i inside :=
    Lane.Rests.asksAttended (rests_sessions.attaches q session name i inside)
      (attends_others.attaches q session name i inside)
  releases wired session i inside :=
    Lane.Rests.asksAttended (rests_sessions.releases wired session i inside)
      (attends_others.releases wired session i inside)
  disconnects wired session i inside :=
    Lane.Rests.asksAttended (rests_sessions.disconnects wired session i inside)
      (attends_others.disconnects wired session i inside)

namespace Producer

variable {q : Queue} {i : Nat}

/-- Giving up on those that have not attached ends all slots that nobody reads from. -/
theorem resetNotConnected_deserted (inside : i < q.consumers)
    (deserted : (q.lane i).slot.Deserted) :
    ((resetNotConnected q).2.lane i).slot.status = .done := by
  simp only [resetNotConnected]
  rw [Queue.lane_mapLanes inside]
  split
  · rfl
  · rename_i attached
    rcases deserted with done | ⟨free, -⟩
    · exact done
    · by_contra undone
      apply attached
      rw [isUnattached, Bool.and_eq_true, beq_iff_eq, bne_iff_ne]
      exact ⟨free, undone⟩

theorem finish_deserted (p : Producer)
    (deserted : ∀ i, i < q.consumers → (q.lane i).slot.Deserted) :
    ∃ pending, (p.finish q).2.2 = .ok pending := by
  cases passed : (p.finish q).2.2 with
  | ok pending => exact ⟨pending, rfl⟩
  | error cause =>
    obtain ⟨i, inside, failed⟩ := finish_error passed
    obtain ⟨n, finished⟩ := Outlet.finish_deserted (o := p.outlet q i) (deserted i inside)
    rw [failed] at finished
    cases finished

/-- A pass over slots that are not active has nothing to hold back. -/
theorem finish_of_closed (p : Producer)
    (closed : ∀ i, i < q.consumers → (q.lane i).slot.status ≠ .active) :
    (p.finish q).2.2 = .ok 0 := by
  have all : ∀ o ∈ p.outlets q, o.finish.2 = .ok 0 := by
    intro o member
    obtain ⟨i, inside, rfl⟩ := List.mem_map.mp member
    rw [Outlet.finish_closed (closed i (List.mem_range.mp inside))]
  exact Outlet.finishAll_none all

end Producer

end RecordExchange
