import RecordExchange.Proofs.Queue.Attendance

set_option autoImplicit false

/-!
What one pass of finishing leaves behind.

A store that a producer holds on to holds some record, so a slot for which one is left has not had
everything yet. The end of the data is announced to the other active slots, and a slot that is not
active any more loses what was held back for it.
-/

namespace RecordExchange

/-- Nothing is held back, or some record is. -/
def Stocked (held : Option OverflowStore) : Prop :=
  ∀ store, held = some store → ∃ record rest, store.Holds (record :: rest)

theorem stocked_none : Stocked none := nofun

theorem Stocked.length_pos {store : OverflowStore} (stocked : Stocked (some store)) :
    0 < store.length := by
  obtain ⟨record, rest, holds⟩ := stocked store rfl
  rw [holds.length]
  exact Nat.succ_pos _

theorem Stocked.eq_none {held : Option OverflowStore} (stocked : Stocked held)
    (empty : held.elim 0 (·.length) = 0) : held = none := by
  cases held with
  | none => rfl
  | some store => exact absurd empty (Nat.ne_of_gt stocked.length_pos)

theorem OverflowStore.Holds.push_stocked {store : OverflowStore} {records : List Record}
    (holds : store.Holds records) {record : Record}
    (short : record.length ≤ LengthWord.maxLength) : Stocked (some (store.push record)) := by
  intro _ same
  cases same
  have pushed := holds.push short
  cases records with
  | nil => exact ⟨_, _, pushed⟩
  | cons first rest => exact ⟨_, _, pushed⟩

/-- However far records are moved into a buffer, the store keeps those that were not, and it is
reported as empty unless some are left. -/
theorem Lane.dump_leaves {store : OverflowStore} {records : List Record} (l : Lane)
    (holds : store.Holds records) :
    (l.dump store).2.2 = .ok true ∨
      ∃ record rest, (l.dump store).2.1.Holds (record :: rest) := by
  induction records generalizing l store with
  | nil =>
    obtain ⟨none, -⟩ := holds.front
    rw [dump_none none]
    exact .inl rfl
  | cons record rest ih =>
    obtain ⟨found, same⟩ := holds.front
    rw [dump_some found]
    split
    · exact ih _ same.pop.2
    · split
      · split
        · exact .inr ⟨record, rest, same⟩
        · exact ih _ same.pop.2
        · exact .inr ⟨record, rest, same⟩
      · exact .inr ⟨record, rest, same⟩

namespace Outlet

variable {o : Outlet} {store : OverflowStore}

/-- Records on their way into a buffer are gone from the store, or some are left in it. -/
theorem dump_stocked (o : Outlet) (stocked : Stocked (some store)) :
    (∃ lane, o.dump store = (⟨lane, none⟩, .ok true)) ∨
      ∃ lane left result, o.dump store = (⟨lane, some left⟩, result) ∧ result ≠ .ok true ∧
        Stocked (some left) := by
  obtain ⟨record, rest, holds⟩ := stocked store rfl
  have leaves := o.lane.dump_leaves holds
  obtain ⟨⟨lane, left, result⟩, dumped⟩ : ∃ made, made = o.lane.dump store := ⟨_, rfl⟩
  rw [← dumped] at leaves
  simp only [dump, ← dumped]
  by_cases emptied : result = .ok true
  · subst emptied
    exact .inl ⟨lane, rfl⟩
  · right
    refine ⟨lane, left, result, ?_, emptied, ?_⟩
    · split
      · rename_i same
        cases same
        exact absurd rfl emptied
      · rename_i same
        cases same
        rfl
    · intro _ same
      cases same
      exact leaves.resolve_left emptied

theorem hold_stocked (stocked : Stocked o.held) (limit : Nat) {record : Record}
    (short : record.length ≤ LengthWord.maxLength) : Stocked (o.hold limit record).held := by
  change Stocked (some ((o.held.getD (.empty limit)).push record))
  cases held : o.held with
  | none => exact (OverflowStore.empty_holds limit).push_stocked short
  | some store =>
    obtain ⟨first, rest, holds⟩ := stocked store held
    exact holds.push_stocked short

theorem send_stocked (stocked : Stocked o.held) (limit : Nat) {record : Record}
    (short : record.length ≤ LengthWord.maxLength) : Stocked (o.send limit record).held := by
  unfold send
  split
  · exact stocked
  · exact hold_stocked stocked limit short

theorem write_stocked (stocked : Stocked o.held) (limit : Nat) {record : Record}
    (short : record.length ≤ LengthWord.maxLength) : Stocked (o.write limit record).1.held := by
  unfold write
  dsimp only
  split
  · exact stocked_none
  · split
    · rename_i none
      exact send_stocked (o := ⟨o.lane.countWrite, o.held⟩) stocked limit short
    · rename_i store holding
      rw [holding] at stocked
      split
      · rcases dump_stocked ⟨o.lane.countWrite, o.held⟩ stocked with
          ⟨lane, dumped⟩ | ⟨lane, left, result, dumped, more, kept⟩
        · simp only [dumped]
          exact send_stocked stocked_none limit short
        · simp only [dumped]
          cases result with
          | error cause => exact kept
          | ok emptied =>
            cases emptied with
            | true => exact absurd rfl more
            | false => exact hold_stocked (o := ⟨lane, some left⟩) kept limit short
      · exact hold_stocked (o := ⟨o.lane.countWrite, o.held⟩) (holding ▸ stocked) limit short

/-- What finishing an outlet comes to. -/
inductive Finishes (o : Outlet) : Outlet × Except Error Nat → Prop
  /-- A slot that is not active is left as it is. -/
  | spares (closed : o.lane.slot.status ≠ .active) : Finishes o (⟨o.lane, none⟩, .ok 0)
  /-- With nothing held back, the end of the data is announced. -/
  | ends (lane : Lane) (active : o.lane.slot.status = .active) :
      Finishes o (⟨(lane.withStatus .eof).wake, none⟩, .ok 0)
  /-- Something is still held back. -/
  | keeps (lane : Lane) (store : OverflowStore) (active : o.lane.slot.status = .active)
      (still : lane.slot.status = .active) (stocked : Stocked (some store)) :
      Finishes o (⟨lane, some store⟩, .ok 1)
  /-- A long record that was begun does not go on. -/
  | fails (lane : Lane) (store : OverflowStore) (cause : Error)
      (active : o.lane.slot.status = .active) (stocked : Stocked (some store)) :
      Finishes o (⟨lane, some store⟩, .error cause)

theorem finish_finishes (stocked : Stocked o.held) : o.Finishes o.finish := by
  obtain ⟨lane, held⟩ := o
  by_cases active : lane.slot.status = .active
  · cases held with
    | none =>
      simp only [finish, active, ↓reduceIte]
      exact .ends lane active
    | some store =>
      by_cases half : lane.slot.isHalfFree = true
      · have status : (Outlet.dump ⟨lane, some store⟩ store).1.lane.slot.status = .active :=
          (dump_blind Lane.status_blind ⟨lane, some store⟩ store).trans active
        simp only [finish, active, half, ne_eq, not_true_eq_false, ↓reduceIte]
        rcases dump_stocked ⟨lane, some store⟩ stocked with
          ⟨after, dumped⟩ | ⟨after, left, result, dumped, more, kept⟩
        · rw [dumped]
          exact .ends after active
        · rw [dumped] at status ⊢
          cases result with
          | error cause => exact .fails after left cause active kept
          | ok emptied =>
            cases emptied with
            | true => exact absurd rfl more
            | false => exact .keeps after.wake left active status kept
      · simp only [finish, active, half, ne_eq, not_true_eq_false, ↓reduceIte, Bool.false_eq_true]
        exact .keeps lane store active active stocked
  · rw [finish_closed active]
    exact .spares active

theorem finish_stocked (stocked : Stocked o.held) : Stocked o.finish.1.held := by
  generalize made : o.finish = result
  have finishes := finish_finishes stocked
  rw [made] at finishes
  cases finishes with
  | spares closed => exact stocked_none
  | ends lane active => exact stocked_none
  | keeps lane store active still kept => exact kept
  | fails lane store cause active kept => exact kept

theorem finish_counts (stocked : Stocked o.held) {n : Nat} (passed : o.finish.2 = .ok n) :
    n = if 0 < o.finish.1.pending then 1 else 0 := by
  have finishes := finish_finishes stocked
  generalize made : o.finish = result at finishes passed ⊢
  cases finishes with
  | spares closed =>
    cases passed
    rfl
  | ends lane active =>
    cases passed
    rfl
  | keeps lane store active still kept =>
    cases passed
    exact (if_pos kept.length_pos).symm
  | fails lane store cause active kept => cases passed

/-- How an outlet comes out of a pass: the end of the data is announced exactly to an active slot
for which nothing is left, whose reader is woken; an active slot for which something is left goes
on; and any other slot stays as it is, with nothing held back for it. -/
structure Announces (before after : Outlet) : Prop where
  ended : before.lane.slot.status ≠ .eof ∧ after.lane.slot.status = .eof ↔
    before.lane.slot.status = .active ∧ after.pending = 0
  woken : before.lane.slot.status ≠ .eof → after.lane.slot.status = .eof →
    after.lane.latch.isSet = true
  goesOn : before.lane.slot.status = .active → 0 < after.pending →
    after.lane.slot.status = .active
  spared : before.lane.slot.status ≠ .active → after = ⟨before.lane, none⟩

theorem finish_announces (stocked : Stocked o.held) {n : Nat} (passed : o.finish.2 = .ok n) :
    o.Announces o.finish.1 := by
  have finishes := finish_finishes stocked
  generalize o.finish = result at finishes passed
  cases finishes with
  | spares closed =>
    refine ⟨⟨fun ended => absurd ended.2 ended.1, fun open' => absurd open'.1 closed⟩,
      fun other ended => absurd ended other, fun active => absurd active closed, fun _ => rfl⟩
  | ends lane active =>
    have unended : o.lane.slot.status ≠ .eof := fun ended => by rw [active] at ended; cases ended
    exact ⟨⟨fun _ => ⟨active, rfl⟩, fun _ => ⟨unended, rfl⟩⟩, fun _ _ => rfl,
      fun _ left => absurd left (Nat.lt_irrefl 0), fun closed => absurd active closed⟩
  | keeps lane store active still kept =>
    have unended : lane.slot.status ≠ .eof := fun ended => by rw [still] at ended; cases ended
    exact ⟨⟨fun ended => absurd ended.2 unended,
        fun none => absurd none.2 (Nat.ne_of_gt kept.length_pos)⟩,
      fun _ ended => absurd ended unended, fun _ _ => still, fun closed => absurd active closed⟩
  | fails lane store cause active kept => cases passed

theorem Announces.closed {before after : Outlet} (announces : before.Announces after)
    (none : after.pending = 0) : after.lane.slot.status ≠ .active := by
  by_cases active : before.lane.slot.status = .active
  · rw [(announces.ended.mpr ⟨active, none⟩).2]
    exact SlotStatus.noConfusion
  · rw [announces.spared active]
    exact active

theorem finishAll_stocked {outlets : List Outlet} (stocked : ∀ o ∈ outlets, Stocked o.held) :
    ∀ o ∈ (finishAll outlets).1, Stocked o.held := by
  induction outlets with
  | nil => exact nofun
  | cons first rest ih =>
    have own := stocked first (List.mem_cons_self ..)
    have others : ∀ o ∈ rest, Stocked o.held :=
      fun o member => stocked o (List.mem_cons_of_mem _ member)
    have finished := finish_stocked own
    rw [finishAll]
    split
    · rename_i after cause passed
      rw [passed] at finished
      exact List.forall_mem_cons.mpr ⟨finished, others⟩
    · rename_i after pending passed
      rw [passed] at finished
      exact List.forall_mem_cons.mpr ⟨finished, ih others⟩

/-- A pass on which no outlet fails finishes all of them, and counts those that still hold something
back. -/
theorem finishAll_passed {outlets : List Outlet} (stocked : ∀ o ∈ outlets, Stocked o.held)
    (passed : ∀ o ∈ outlets, ∃ n, o.finish.2 = .ok n) :
    finishAll outlets =
      (outlets.map (·.finish.1), .ok (outlets.countP fun o => decide (0 < o.finish.1.pending))) := by
  induction outlets with
  | nil => rfl
  | cons first rest ih =>
    obtain ⟨n, own⟩ := passed first (List.mem_cons_self ..)
    have counted := finish_counts (stocked first (List.mem_cons_self ..)) own
    have split : first.finish = (first.finish.1, .ok n) := by rw [← own]
    have later := ih (fun o member => stocked o (List.mem_cons_of_mem _ member))
      (fun o member => passed o (List.mem_cons_of_mem _ member))
    rw [finishAll, split]
    simp only [later, Except.map, List.map_cons, List.countP_cons, decide_eq_true_eq]
    rw [← counted, Nat.add_comm]

/-- Finishing outlets that have nothing to move or to announce does nothing. -/
theorem finishAll_idle {outlets : List Outlet} (idle : ∀ o ∈ outlets, o.finish = (o, .ok 0)) :
    finishAll outlets = (outlets, .ok 0) := by
  induction outlets with
  | nil => rfl
  | cons first rest ih =>
    rw [finishAll, idle first (List.mem_cons_self ..)]
    simp only [ih fun o member => idle o (List.mem_cons_of_mem _ member), Except.map]

end Outlet

namespace Producer

variable {p : Producer} {q : Queue} {i : Nat}

/-- Whatever is held back for a slot is some record. -/
def IsStocked (p : Producer) : Prop := ∀ i, Stocked (p.held i)

theorem IsStocked.of_none (none : ∀ i, p.held i = none) : p.IsStocked := by
  intro i
  rw [none i]
  exact stocked_none

theorem setOutlet_stocked (stocked : p.IsStocked) (q : Queue) (i : Nat) {o : Outlet}
    (kept : Stocked o.held) : (p.setOutlet q i o).1.IsStocked := by
  intro j
  by_cases same : i = j
  · subst same
    change Stocked ((p.overflow.setIfInBounds i o.held).getD i none)
    rw [Array.getD_eq_getD_getElem?, Array.getElem?_setIfInBounds_self]
    split
    · exact kept
    · exact stocked_none
  · rw [setOutlet_held_other p q same]
    exact stocked j

theorem setOutletsFrom_stocked (stocked : p.IsStocked) (q : Queue) (i : Nat)
    {outlets : List Outlet} (kept : ∀ o ∈ outlets, Stocked o.held) :
    (p.setOutletsFrom q i outlets).1.IsStocked := by
  induction outlets generalizing p q i with
  | nil => exact stocked
  | cons o rest ih =>
    exact ih (setOutlet_stocked stocked q i (kept o (List.mem_cons_self ..))) _ _
      fun o member => kept o (List.mem_cons_of_mem _ member)

theorem outlets_stocked (stocked : p.IsStocked) (q : Queue) :
    ∀ o ∈ p.outlets q, Stocked o.held := by
  intro o member
  obtain ⟨i, -, rfl⟩ := List.mem_map.mp member
  exact stocked i

theorem write_stocked (stocked : p.IsStocked) (limit : Nat) (q : Queue) (i : Nat)
    (record : Record) : (p.write limit q i record).1.IsStocked := by
  by_cases fits : i < q.consumers ∧ record.length ≤ LengthWord.maxLength
  · rw [write_of_fits limit fits.1 fits.2]
    exact setOutlet_stocked stocked q i (Outlet.write_stocked (stocked i) limit fits.2)
  · obtain ⟨cause, refused, -⟩ := p.write_refused limit q fits
    rw [refused]
    exact stocked

theorem finish_stocked (stocked : p.IsStocked) (q : Queue) : (p.finish q).1.IsStocked :=
  setOutletsFrom_stocked stocked q 0 (Outlet.finishAll_stocked (outlets_stocked stocked q))

/-- What an unbinding producer holds on to is what a pass of finishing left, or nothing. -/
theorem closeStep_stocked (stocked : p.IsStocked) (s : Segment) (failed : Bool) (live : Liveness)
    (point : ClosePoint) : (p.closeStep s failed live point).1.IsStocked := by
  have finished := finish_stocked stocked (s.queue p.handle)
  match point with
  | .run .flush =>
    cases passed : (p.finish (s.queue p.handle)).2.2 with
    | error cause =>
      rw [closeStep_flush_failed (finish_eq passed)]
      exact .of_none (dropOverflow_held _)
    | ok pending =>
      cases pending with
      | zero =>
        rw [closeStep_flush_done (finish_eq passed)]
        exact finished
      | succ pending =>
        rw [closeStep_flush_pending (finish_eq passed)]
        exact finished
  | .woken .flush => exact stocked
  | .timedOut .flush => exact stocked
  | .run .sweep =>
    simp only [closeStep]
    split
    · exact stocked
    · exact stocked
  | .woken .sweep => exact stocked
  | .timedOut .sweep => exact stocked
  | .settle =>
    simp only [closeStep]
    split
    · exact .of_none (dropOverflow_held p)
    · split
      · exact stocked
      · exact stocked

/-- A pass on which no outlet fails leaves every outlet finished, and reports for how many slots
something is still held back. -/
theorem finish_passed (wired : q.Wired) (sized : p.Sized q) (stocked : p.IsStocked)
    (passed : ∀ i, i < q.consumers → ∃ n, (p.outlet q i).finish.2 = .ok n) :
    (p.finish q).2.2 =
        .ok ((List.range q.consumers).countP fun i => decide (0 < (p.finish q).1.pending i)) ∧
      ∀ i, i < q.consumers →
        (p.finish q).1.outlet (p.finish q).2.1 i = (p.outlet q i).finish.1 := by
  have all : ∀ o ∈ p.outlets q, ∃ n, o.finish.2 = .ok n := by
    intro o member
    obtain ⟨i, inside, rfl⟩ := List.mem_map.mp member
    exact passed i (List.mem_range.mp inside)
  have pass := Outlet.finishAll_passed (outlets_stocked stocked q) all
  obtain ⟨finished, made⟩ : ∃ finished, finished = (p.outlets q).map (·.finish.1) := ⟨_, rfl⟩
  rw [← made] at pass
  have length : finished.length = q.consumers := by
    rw [made, List.length_map, outlets_length]
  have put : p.finish q = ((p.setOutletsFrom q 0 finished).1, (p.setOutletsFrom q 0 finished).2,
      .ok ((p.outlets q).countP fun o => decide (0 < o.finish.1.pending))) := by
    rw [finish, pass]
  have outlet (i : Nat) (inside : i < q.consumers) :
      (p.finish q).1.outlet (p.finish q).2.1 i = (p.outlet q i).finish.1 := by
    have lane := wired.lane_setLanesFrom (i := 0) (finished.map (·.lane)) i
      (by rw [List.length_map]; omega) (by rw [List.length_map]; omega)
    have held := setOutletsFrom_held (i := 0) sized finished i (by omega) (by omega)
    rw [Nat.zero_add] at lane held
    rw [put, setOutletsFrom_queue]
    change Outlet.mk _ ((p.setOutletsFrom q 0 finished).1.held i) = _
    rw [lane, held, List.getElem_map]
    simp only [made, outlets, List.getElem_map, List.getElem_range]
  refine ⟨?_, outlet⟩
  have counted : (p.outlets q).countP (fun o => decide (0 < o.finish.1.pending)) =
      (List.range q.consumers).countP fun i => decide (0 < (p.finish q).1.pending i) := by
    rw [outlets, List.countP_map]
    apply List.countP_congr
    intro i inside
    rw [Function.comp_apply, ← outlet i (List.mem_range.mp inside)]
    exact Iff.rfl
  rw [← counted, put]

/-- A pass over slots that are not active, with nothing held back, changes nothing. -/
theorem finish_idle (closed : ∀ i, i < q.consumers → (q.lane i).slot.status ≠ .active)
    (none : ∀ i, p.held i = none) : p.finish q = (p, q, .ok 0) := by
  have idle : ∀ o ∈ p.outlets q, o.finish = (o, .ok 0) := by
    intro o member
    obtain ⟨i, inside, rfl⟩ := List.mem_map.mp member
    have same : (p.outlet q i).held = .none := none i
    rw [Outlet.finish_closed (closed i (List.mem_range.mp inside)), ← same]
  rw [finish, Outlet.finishAll_idle idle, outlets, List.range_eq_range']
  simp only [setOutletsFrom_outlets]

section Passed

variable (stocked : p.IsStocked)
  (passed : ∀ i, i < q.consumers → ∃ n, (p.outlet q i).finish.2 = .ok n)
include stocked passed

theorem finish_announces (wired : q.Wired) (sized : p.Sized q) (inside : i < q.consumers) :
    (p.outlet q i).Announces ((p.finish q).1.outlet (p.finish q).2.1 i) := by
  obtain ⟨n, own⟩ := passed i inside
  rw [(finish_passed wired sized stocked passed).2 i inside]
  exact Outlet.finish_announces (stocked i) own

/-- After a pass that reports nothing as held back all outlets are through, and the next one does
nothing. -/
theorem finish_nothing (wired : q.Wired) (sized : p.Sized q) (none : (p.finish q).2.2 = .ok 0) :
    (∀ i, (p.finish q).1.held i = .none) ∧
      (∀ i, i < (p.finish q).2.1.consumers → ((p.finish q).2.1.lane i).slot.status ≠ .active) ∧
      (p.finish q).1.finish (p.finish q).2.1 = ((p.finish q).1, (p.finish q).2.1, .ok 0) := by
  have fewer := finish_consumers p q
  rw [(finish_passed wired sized stocked passed).1, Except.ok.injEq, List.countP_eq_zero] at none
  have nothing (i : Nat) (inside : i < q.consumers) : (p.finish q).1.pending i = 0 := by
    have few := none i (List.mem_range.mpr inside)
    rw [decide_eq_true_eq] at few
    omega
  have empty (i : Nat) : (p.finish q).1.held i = .none := by
    by_cases inside : i < q.consumers
    · exact (finish_stocked stocked q i).eq_none (nothing i inside)
    · have beyond : (p.finish q).1.overflow.size ≤ i := by
        rw [finish_sized sized, fewer]
        omega
      rw [held, Array.getD_eq_getD_getElem?, Array.getElem?_eq_none beyond]
      rfl
  have closed (i : Nat) (inside : i < (p.finish q).2.1.consumers) :
      ((p.finish q).2.1.lane i).slot.status ≠ .active := by
    rw [fewer] at inside
    exact (finish_announces stocked passed wired sized inside).closed (nothing i inside)
  exact ⟨empty, closed, finish_idle closed empty⟩

end Passed

end Producer

end RecordExchange
