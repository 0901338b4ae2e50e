import Mathlib.Algebra.BigOperators.Group.Finset.Basic
import Mathlib.Algebra.GroupWithZero.Nat
import RecordExchange.Producer

set_option autoImplicit false

/-!
What a producer that would like to rest makes of the slots.

It looks at them in their order and stops at the first active one without a row. What comes of it
is nevertheless a matter of the active slots alone, in whatever order they stand: all of them have
rows, and their buffers are more than half full on average.
-/

namespace RecordExchange

/-- A buffer has rows if its count says so; one with the middle of a long record has none. -/
theorem Ring.rows_pos_iff (r : Ring) : 0 < r.rows ↔ ∃ n, 0 < n ∧ r.count = .rows n := by
  rw [rows]
  cases r.count with
  | empty => exact ⟨fun less => absurd less (Nat.lt_irrefl 0), fun ⟨_, _, same⟩ => nomatch same⟩
  | rows n =>
    refine ⟨fun more => ⟨n, more, rfl⟩, fun ⟨m, more, same⟩ => ?_⟩
    cases same
    exact more
  | longRecord => exact ⟨fun less => absurd less (Nat.lt_irrefl 0), fun ⟨_, _, same⟩ => nomatch same⟩

/-- An average above half of a length belongs to a sum above half of all lengths together. -/
theorem mul_lt_two_mul_of_half_lt_average {length total count : Nat}
    (above : length / 2 < total / count) : count * length < 2 * total := by
  have positive : 0 < count := by
    by_contra none
    rw [Nat.eq_zero_of_not_pos none, Nat.div_zero] at above
    exact absurd above (Nat.not_lt_zero _)
  have whole : (length / 2 + 1) * count ≤ total := (Nat.le_div_iff_mul_le positive).mp above
  have half : length < 2 * (length / 2 + 1) := by omega
  calc count * length
      < count * (2 * (length / 2 + 1)) := Nat.mul_lt_mul_of_pos_left half positive
    _ = 2 * ((length / 2 + 1) * count) := by rw [Nat.mul_left_comm, Nat.mul_comm count]
    _ ≤ 2 * total := Nat.mul_le_mul_left 2 whole

namespace Backlog

variable {b : Backlog} {s : Slot} {slots : List Slot} {n : Nat}

theorem look_active (active : s.status = .active) :
    b.look s = ⟨0 < s.ring.rows, b.used + s.ring.used, b.active + 1, s.ring.capacity⟩ :=
  if_pos active

theorem look_inactive (inactive : s.status ≠ .active) :
    b.look s = { b with capacity := s.ring.capacity } := if_neg inactive

theorem look_capacity (b : Backlog) (s : Slot) : (b.look s).capacity = s.ring.capacity := by
  unfold look
  split
  · rfl
  · rfl

theorem scan_next (ready : b.ready = true) (s : Slot) (slots : List Slot) :
    b.scan (s :: slots) = (b.look s).scan slots := if_pos ready

theorem scan_stopped (stopped : b.ready = false) (slots : List Slot) : b.scan slots = b := by
  cases slots with
  | nil => rfl
  | cons s slots => rw [scan, stopped]; rfl

theorem scan_capacity (uniform : ∀ s ∈ slots, s.ring.capacity = n) (same : b.capacity = n) :
    (b.scan slots).capacity = n := by
  induction slots generalizing b with
  | nil => exact same
  | cons s slots ih =>
    rw [scan]
    split
    · refine ih (fun t there => uniform t (List.mem_cons_of_mem _ there)) ?_
      rw [look_capacity]
      exact uniform s List.mem_cons_self
    · exact same

/-- The length that is compared with is that of all buffers, wherever the scan stops. -/
theorem scan_start_capacity (uniform : ∀ s ∈ slots, s.ring.capacity = n) (some : slots ≠ []) :
    (start.scan slots).capacity = n := by
  cases slots with
  | nil => exact absurd rfl some
  | cons s slots =>
    rw [scan_next rfl]
    refine scan_capacity (fun t there => uniform t (List.mem_cons_of_mem _ there)) ?_
    rw [look_capacity]
    exact uniform s List.mem_cons_self

/-- Where every active slot has a row, all slots are taken into account. -/
theorem scan_rows (ready : b.ready = true)
    (rows : ∀ s ∈ slots, s.status = .active → 0 < s.ring.rows) :
    (b.scan slots).ready = true ∧
      (b.scan slots).used =
        b.used + ((slots.filter (·.status = .active)).map (·.ring.used)).sum ∧
      (b.scan slots).active = b.active + (slots.filter (·.status = .active)).length := by
  induction slots generalizing b with
  | nil => exact ⟨ready, rfl, rfl⟩
  | cons s slots ih =>
    have later : ∀ t ∈ slots, t.status = .active → 0 < t.ring.rows := fun t there =>
      rows t (List.mem_cons_of_mem _ there)
    rw [scan_next ready]
    by_cases active : s.status = .active
    · have row := decide_eq_true (rows s List.mem_cons_self active)
      obtain ⟨ready', used, count⟩ := ih (b := b.look s) (by rw [look_active active]; exact row) later
      have counted : (s :: slots).filter (·.status = .active) =
          s :: slots.filter (·.status = .active) := List.filter_cons_of_pos (decide_eq_true active)
      rw [counted, List.map_cons, List.sum_cons, List.length_cons]
      rw [look_active active] at used count ⊢
      exact ⟨look_active active ▸ ready', by rw [used, Nat.add_assoc],
        by rw [count, Nat.add_assoc, Nat.add_comm 1]⟩
    · have kept : (b.look s).ready = true := by
        rw [look_inactive active]
        exact ready
      obtain ⟨ready', used, count⟩ := ih kept later
      have passed : (s :: slots).filter (·.status = .active) =
          slots.filter (·.status = .active) :=
        List.filter_cons_of_neg fun counted => active (of_decide_eq_true counted)
      rw [passed]
      rw [look_inactive active] at used count ⊢
      exact ⟨look_inactive active ▸ ready', used, count⟩

theorem scan_idle (idle : ∃ s ∈ slots, s.status = .active ∧ s.ring.rows = 0) :
    (b.scan slots).ready = false := by
  induction slots generalizing b with
  | nil => exact nomatch idle
  | cons s slots ih =>
    cases ready : b.ready with
    | false => rw [scan_stopped ready, ready]
    | true =>
      rw [scan_next ready]
      obtain ⟨t, there, active, none⟩ := idle
      rcases List.mem_cons.mp there with rfl | later
      · have stopped : (b.look t).ready = false := by
          rw [look_active active, none]
          rfl
        rw [scan_stopped stopped, stopped]
      · exact ih ⟨t, later, active, none⟩

/-- The scan goes by the order of the slots, but what comes of it does not. -/
theorem isAmple_scan_iff (uniform : ∀ s ∈ slots, s.ring.capacity = n) :
    (start.scan slots).isAmple = true ↔
      slots.filter (·.status = .active) ≠ [] ∧
        (∀ s ∈ slots, s.status = .active → 0 < s.ring.rows) ∧
        n / 2 < ((slots.filter (·.status = .active)).map (·.ring.used)).sum /
          (slots.filter (·.status = .active)).length := by
  by_cases rows : ∀ s ∈ slots, s.status = .active → 0 < s.ring.rows
  · obtain ⟨ready, used, active⟩ := scan_rows (b := start) rfl rows
    have count : (start.scan slots).active = (slots.filter (·.status = .active)).length := by
      rw [active]
      exact Nat.zero_add _
    have total : (start.scan slots).used =
        ((slots.filter (·.status = .active)).map (·.ring.used)).sum := by
      rw [used]
      exact Nat.zero_add _
    have present : (slots.filter (·.status = .active)).length ≠ 0 ↔
        slots.filter (·.status = .active) ≠ [] := not_congr List.length_eq_zero_iff
    rw [isAmple, ready, count, total, Bool.and_eq_true, Bool.true_and, bne_iff_ne, present,
      decide_eq_true_iff]
    refine and_congr_right fun any => ?_
    have some : slots ≠ [] := by
      rintro rfl
      exact any rfl
    rw [and_iff_right rows, scan_start_capacity uniform some]
  · have idle : ∃ s ∈ slots, s.status = .active ∧ s.ring.rows = 0 := by
      by_contra all
      exact rows fun s there active => Nat.pos_of_ne_zero fun none => all ⟨s, there, active, none⟩
    rw [isAmple, scan_idle idle, Bool.false_and, Bool.and_false]
    exact ⟨(nomatch ·), fun ⟨_, all, _⟩ => absurd all rows⟩

end Backlog

namespace Queue

def active (q : Queue) : Finset Nat :=
  (Finset.range q.consumers).filter fun i => (q.lane i).slot.status = .active

variable {q : Queue} {i : Nat}

theorem mem_active : i ∈ q.active ↔ i < q.consumers ∧ (q.lane i).slot.status = .active :=
  Finset.mem_filter.trans (and_congr_left' Finset.mem_range)

theorem forall_slots_iff (q : Queue) (P : Slot → Prop) :
    (∀ s ∈ q.lanes.map (·.slot), P s) ↔ ∀ i, i < q.consumers → P (q.lane i).slot := by
  rw [lanes, List.map_map, List.forall_mem_map]
  exact forall_congr' fun i => imp_congr_left List.mem_range

/-- The active ones of all slots are the slots in the active places. -/
theorem filter_slots (q : Queue) :
    (q.lanes.map (·.slot)).filter (·.status = .active) =
      ((List.range q.consumers).filter fun i => (q.lane i).slot.status = .active).map
        fun i => (q.lane i).slot := by
  rw [lanes, List.map_map, List.filter_map]
  rfl

theorem card_active (q : Queue) :
    q.active.card = ((q.lanes.map (·.slot)).filter (·.status = .active)).length := by
  rw [filter_slots, List.length_map]
  rfl

theorem sum_active (q : Queue) (f : Slot → Nat) :
    ∑ i ∈ q.active, f (q.lane i).slot =
      (((q.lanes.map (·.slot)).filter (·.status = .active)).map f).sum := by
  rw [filter_slots, List.map_map]
  rfl

end Queue

namespace Producer

variable {q : Queue} {n : Nat}

/-- Whether a producer may rest does not depend on the order of the slots. -/
theorem canPause_iff (uniform : ∀ i, i < q.consumers → (q.lane i).slot.ring.capacity = n) :
    (canPause q).1 = true ↔
      q.active.Nonempty ∧ (∀ i ∈ q.active, 0 < (q.lane i).slot.ring.rows) ∧
        n / 2 < (∑ i ∈ q.active, (q.lane i).slot.ring.used) / q.active.card := by
  have answer : (canPause q).1 = isBackedUp q.lanes := by
    unfold canPause
    split
    · rename_i ample
      exact ample.symm
    · rename_i scarce
      exact (Bool.eq_false_of_not_eq_true scarce).symm
  have present : (q.lanes.map (·.slot)).filter (·.status = .active) ≠ [] ↔ q.active.Nonempty := by
    rw [← Finset.card_pos, q.card_active, List.length_pos_iff]
  have rows : (∀ s ∈ q.lanes.map (·.slot), s.status = .active → 0 < s.ring.rows) ↔
      ∀ i ∈ q.active, 0 < (q.lane i).slot.ring.rows := by
    rw [q.forall_slots_iff]
    exact forall_congr' fun i => and_imp.symm.trans (imp_congr_left Queue.mem_active.symm)
  rw [answer, isBackedUp, Backlog.isAmple_scan_iff ((q.forall_slots_iff _).mpr uniform), present,
    rows, q.card_active, q.sum_active (·.ring.used)]

end Producer

end RecordExchange
