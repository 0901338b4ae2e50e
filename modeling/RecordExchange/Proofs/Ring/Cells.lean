import RecordExchange.Ring.Basic

set_option autoImplicit false

/-!
The cells of a cyclic buffer: what a write changes, and what a read sees.

Offsets within one turn name different cells, so a write of at most one turn is read back whole
and leaves every other cell alone.
-/

namespace RecordExchange.Ring

theorem storeFrom_size (bytes : Array UInt8) (start : Nat) (xs : List UInt8) :
    (storeFrom bytes start xs).size = bytes.size := by
  induction xs generalizing bytes start with
  | nil => rfl
  | cons x xs ih => rw [storeFrom, ih, Array.size_setIfInBounds]

@[simp] theorem fetchFrom_length (bytes : Array UInt8) (start n : Nat) :
    (fetchFrom bytes start n).length = n := by
  simp only [fetchFrom, List.length_map, List.length_range]

theorem fetchFrom_getElem (bytes : Array UInt8) (start n i : Nat)
    (inside : i < (fetchFrom bytes start n).length) :
    (fetchFrom bytes start n)[i] = bytes.getD ((start + i) % bytes.size) 0 := by
  simp only [fetchFrom, List.getElem_map, List.getElem_range]

/-- Within one turn an offset is determined by its cell. -/
theorem cell_injective {start size i j : Nat} (hi : i < size) (hj : j < size)
    (same : (start + i) % size = (start + j) % size) : i = j := by
  have left := Nat.div_add_mod (start + i) size
  have right := Nat.div_add_mod (start + j) size
  rw [same] at left
  by_cases turns : (start + i) / size = (start + j) / size
  · rw [turns] at left
    omega
  · rcases Nat.lt_or_gt_of_ne turns with less | more
    · have bound := Nat.mul_le_mul_left size (Nat.succ_le_of_lt less)
      rw [Nat.mul_succ] at bound
      omega
    · have bound := Nat.mul_le_mul_left size (Nat.succ_le_of_lt more)
      rw [Nat.mul_succ] at bound
      omega

theorem setIfInBounds_getD (bytes : Array UInt8) (cell other : Nat) (x : UInt8)
    (inside : cell < bytes.size) :
    (bytes.setIfInBounds cell x).getD other 0 = if cell = other then x else bytes.getD other 0 := by
  simp only [Array.getD_eq_getD_getElem?, Array.getElem?_setIfInBounds, inside, ↓reduceIte]
  split <;> rfl

theorem storeFrom_outside (bytes : Array UInt8) (start : Nat) (xs : List UInt8) (cell : Nat)
    (outside : ∀ i, i < xs.length → (start + i) % bytes.size ≠ cell) :
    (storeFrom bytes start xs).getD cell 0 = bytes.getD cell 0 := by
  induction xs generalizing bytes start with
  | nil => rfl
  | cons x xs ih =>
    have first : start % bytes.size ≠ cell := outside 0 (Nat.zero_lt_succ _)
    rw [storeFrom, ih]
    · rw [Array.getD_eq_getD_getElem?, Array.getElem?_setIfInBounds_ne first,
        ← Array.getD_eq_getD_getElem?]
    · intro i inside
      rw [Array.size_setIfInBounds, Nat.add_assoc, Nat.add_comm 1 i]
      exact outside (i + 1) (Nat.succ_lt_succ inside)

theorem storeFrom_inside (bytes : Array UInt8) (start : Nat) (xs : List UInt8)
    (fits : xs.length ≤ bytes.size) (i : Nat) (inside : i < xs.length) :
    (storeFrom bytes start xs).getD ((start + i) % bytes.size) 0 = xs[i] := by
  induction xs generalizing bytes start i with
  | nil => exact absurd inside (Nat.not_lt_zero i)
  | cons x xs ih =>
    rw [List.length_cons] at fits
    have cell : start % bytes.size < bytes.size := Nat.mod_lt _ (by omega)
    cases i with
    | zero =>
      rw [storeFrom, storeFrom_outside]
      · rw [setIfInBounds_getD _ _ _ _ cell]
        simp only [Nat.add_zero, ↓reduceIte, List.getElem_cons_zero]
      · -- the remaining bytes come round to the first cell only after a whole turn
        intro j later same
        rw [Array.size_setIfInBounds, Nat.add_assoc] at same
        have := cell_injective (by omega) (by omega) same
        omega
    | succ i =>
      have rest := ih (bytes.setIfInBounds (start % bytes.size) x) (start + 1)
        (by rw [Array.size_setIfInBounds]; omega) i (Nat.lt_of_succ_lt_succ inside)
      rw [Array.size_setIfInBounds, Nat.add_assoc, Nat.add_comm 1 i] at rest
      rw [storeFrom, rest, List.getElem_cons_succ]

theorem storeFrom_mod (bytes : Array UInt8) (start : Nat) (xs : List UInt8) :
    storeFrom bytes (start % bytes.size) xs = storeFrom bytes start xs := by
  induction xs generalizing bytes start with
  | nil => rfl
  | cons x xs ih =>
    have next := ih (bytes.setIfInBounds (start % bytes.size) x)
    rw [Array.size_setIfInBounds] at next
    rw [storeFrom, storeFrom, Nat.mod_mod, ← next (start % bytes.size + 1), Nat.mod_add_mod, next]

theorem fetchFrom_mod (bytes : Array UInt8) (start n : Nat) :
    fetchFrom bytes (start % bytes.size) n = fetchFrom bytes start n := by
  simp only [fetchFrom, Nat.mod_add_mod]

theorem fetchFrom_append (bytes : Array UInt8) (start m n : Nat) :
    fetchFrom bytes start (m + n) = fetchFrom bytes start m ++ fetchFrom bytes (start + m) n := by
  simp only [fetchFrom, List.range_add, List.map_append, List.map_map, Function.comp_def,
    Nat.add_assoc]

theorem fetchFrom_storeFrom (bytes : Array UInt8) (start : Nat) (xs : List UInt8)
    (fits : xs.length ≤ bytes.size) :
    fetchFrom (storeFrom bytes start xs) start xs.length = xs := by
  apply List.ext_getElem (fetchFrom_length _ _ _)
  intro i _ inside
  rw [fetchFrom_getElem, storeFrom_size]
  exact storeFrom_inside bytes start xs fits i inside

/-- A write behind `n` bytes leaves them alone as long as it does not come round to them. -/
theorem fetchFrom_storeFrom_behind (bytes : Array UInt8) (start n : Nat) (xs : List UInt8)
    (fits : n + xs.length ≤ bytes.size) :
    fetchFrom (storeFrom bytes (start + n) xs) start n = fetchFrom bytes start n := by
  apply List.ext_getElem (by rw [fetchFrom_length, fetchFrom_length])
  intro i inside _
  rw [fetchFrom_length] at inside
  rw [fetchFrom_getElem, fetchFrom_getElem, storeFrom_size]
  apply storeFrom_outside
  intro j written same
  rw [Nat.add_assoc] at same
  have := cell_injective (by omega) (by omega) same
  omega

end RecordExchange.Ring
