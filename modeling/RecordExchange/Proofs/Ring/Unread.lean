import RecordExchange.Proofs.Ring.Cells

set_option autoImplicit false

/-!
The unread bytes of a buffer.

`Holds r xs` says that `xs` is what lies between the read cursor and the write cursor. Writing
appends to it and reading takes from its front, wherever the buffer is cut, and the number of free
bytes is what it leaves.
-/

namespace RecordExchange.Ring

/-- The bytes between the cursors are `xs`. Equal cursors are read as "nothing" or "everything"
according to the length of `xs`. -/
structure Holds (r : Ring) (xs : List UInt8) : Prop where
  read_lt : r.read < r.capacity
  fits : xs.length ≤ r.capacity
  write_eq : r.write = (r.read + xs.length) % r.capacity
  unread : fetchFrom r.bytes r.read xs.length = xs

theorem put_capacity (r : Ring) (xs : List UInt8) : (r.put xs).capacity = r.capacity :=
  storeFrom_size r.bytes r.write xs

@[simp] theorem put_put_capacity (r : Ring) (xs ys : List UInt8) :
    ((r.put xs).put ys).capacity = r.capacity :=
  (put_capacity _ ys).trans (put_capacity r xs)

@[simp] theorem put_read (r : Ring) (xs : List UInt8) : (r.put xs).read = r.read := rfl

@[simp] theorem get_capacity (r : Ring) (n : Nat) : (r.get n).2.capacity = r.capacity := rfl

theorem rows_of_count {r : Ring} {n : Nat} (count : r.count = .rows n) : r.rows = n := by
  rw [rows, count]
  rfl

theorem rows_of_longRecord {r : Ring} (count : r.count = .longRecord) : r.rows = 0 := by
  rw [rows, count]
  rfl

@[simp] theorem holds_withCount (r : Ring) (count : TupleCount) (xs : List UInt8) :
    ({ r with count } : Ring).Holds xs ↔ r.Holds xs :=
  ⟨fun h => ⟨h.read_lt, h.fits, h.write_eq, h.unread⟩,
    fun h => ⟨h.read_lt, h.fits, h.write_eq, h.unread⟩⟩

/-- Nothing is unread exactly when the cursors meet. -/
theorem holds_nil_iff (r : Ring) :
    r.Holds [] ↔ r.read < r.capacity ∧ r.read = r.write := by
  constructor
  · intro held
    have met := held.write_eq
    rw [List.length_nil, Nat.add_zero, Nat.mod_eq_of_lt held.read_lt] at met
    exact ⟨held.read_lt, met.symm⟩
  · rintro ⟨inside, met⟩
    refine ⟨inside, Nat.zero_le _, ?_, rfl⟩
    rw [List.length_nil, Nat.add_zero, Nat.mod_eq_of_lt inside, met]

namespace Holds

variable {r : Ring} {xs ys : List UInt8}

theorem write_lt (held : r.Holds xs) : r.write < r.capacity := by
  have inside := held.read_lt
  rw [held.write_eq]
  exact Nat.mod_lt _ (by omega)

theorem put (held : r.Holds xs) (room : xs.length + ys.length ≤ r.capacity) :
    (r.put ys).Holds (xs ++ ys) := by
  have stored : (r.put ys).bytes = storeFrom r.bytes (r.read + xs.length) ys := by
    change storeFrom r.bytes r.write ys = _
    rw [held.write_eq]
    exact storeFrom_mod r.bytes (r.read + xs.length) ys
  refine ⟨?_, ?_, ?_, ?_⟩
  · rw [put_capacity]
    exact held.read_lt
  · rw [put_capacity, List.length_append]
    exact room
  · rw [put_capacity]
    change (r.write + ys.length) % r.capacity = _
    rw [held.write_eq, Nat.mod_add_mod, List.length_append, Nat.add_assoc, put_read]
  · rw [List.length_append, fetchFrom_append, stored, put_read,
      fetchFrom_storeFrom_behind r.bytes r.read xs.length ys room, held.unread,
      fetchFrom_storeFrom r.bytes (r.read + xs.length) ys
        (Nat.le_trans (Nat.le_add_left _ _) room)]

theorem get_fst (held : r.Holds (xs ++ ys)) : (r.get xs.length).1 = xs := by
  have whole := held.unread
  rw [List.length_append, fetchFrom_append] at whole
  exact List.append_inj_left whole (fetchFrom_length _ _ _)

theorem get_snd (held : r.Holds (xs ++ ys)) : (r.get xs.length).2.Holds ys := by
  have inside := held.read_lt
  have bound := held.fits
  rw [List.length_append] at bound
  refine ⟨Nat.mod_lt _ (by omega), ?_, ?_, ?_⟩
  · rw [get_capacity]
    omega
  · change r.write = ((r.read + xs.length) % r.capacity + ys.length) % r.capacity
    rw [Nat.mod_add_mod, held.write_eq, List.length_append, Nat.add_assoc]
  · change fetchFrom r.bytes ((r.read + xs.length) % r.bytes.size) ys.length = ys
    have whole := held.unread
    rw [List.length_append, fetchFrom_append] at whole
    rw [fetchFrom_mod]
    exact List.append_inj_right whole (fetchFrom_length _ _ _)

/-- The free bytes are what the unread ones leave. With no row counted the cursors must meet. -/
theorem free_add_length (held : r.Holds xs) (rows : r.rows = 0 ↔ xs = []) :
    r.free + xs.length = r.capacity := by
  have inside := held.read_lt
  have bound := held.fits
  have met := held.write_eq
  unfold free
  split
  · rename_i none
    rw [rows.mp none, List.length_nil, Nat.add_zero]
  · rename_i some
    have positive : 0 < xs.length := List.length_pos_iff.mpr (fun none => some (rows.mpr none))
    by_cases turns : r.read + xs.length < r.capacity
    · rw [Nat.mod_eq_of_lt turns] at met
      split <;> omega
    · rw [Nat.mod_eq_sub_mod (by omega), Nat.mod_eq_of_lt (by omega)] at met
      split <;> omega

/-- Bytes written into cells that nothing unread lies in are not seen. -/
theorem overwrite (held : r.Holds []) (start : Nat) (ys : List UInt8) :
    ({ r with bytes := storeFrom r.bytes start ys } : Ring).Holds [] := by
  obtain ⟨inside, met⟩ := (holds_nil_iff r).mp held
  refine (holds_nil_iff _).mpr ⟨?_, met⟩
  change r.read < (storeFrom r.bytes start ys).size
  rw [storeFrom_size]
  exact inside

end Holds

end RecordExchange.Ring
