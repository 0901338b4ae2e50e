import RecordExchange.Proofs.Queue.Lifecycle

set_option autoImplicit false

/-!
The measures of a buffer.

Whatever passes through a buffer, it keeps its length, and both cursors stay inside of it; so the
bytes taken and the bytes free are never more than the buffer has. No work on a queue, whoever's,
changes that.
-/

namespace RecordExchange

namespace Ring

-- comparing buffers must not run through their cells
attribute [local irreducible] Ring.storeFrom Ring.fetchFrom

/-- The buffer has so many cells, and both cursors stand in it. -/
structure Measures (r : Ring) (length : Nat) : Prop where
  capacity : r.capacity = length
  read : r.read < length
  write : r.write < length

variable {r : Ring} {n : Nat}

theorem Measures.positive (measures : r.Measures n) : 0 < n := Nat.zero_lt_of_lt measures.read

theorem fresh_measures {bytes : Array UInt8} (size : bytes.size = n) (positive : 0 < n) :
    (fresh bytes).Measures n := ⟨size, positive, positive⟩

theorem Measures.put (measures : r.Measures n) (xs : List UInt8) : (r.put xs).Measures n := by
  refine ⟨(put_capacity r xs).trans measures.capacity, measures.read, ?_⟩
  change (r.write + xs.length) % r.capacity < n
  rw [measures.capacity]
  exact Nat.mod_lt _ measures.positive

theorem Measures.get (measures : r.Measures n) (bytes : Nat) : (r.get bytes).2.Measures n := by
  refine ⟨measures.capacity, ?_, measures.write⟩
  change (r.read + bytes) % r.capacity < n
  rw [measures.capacity]
  exact Nat.mod_lt _ measures.positive

/-- How much lies in a buffer has no part in its measures. -/
theorem Measures.withCount (measures : r.Measures n) (count : TupleCount) :
    { r with count }.Measures n := ⟨measures.capacity, measures.read, measures.write⟩

theorem Measures.discard (measures : r.Measures n) : r.discard.Measures n :=
  ⟨measures.capacity, measures.positive, measures.positive⟩

theorem Measures.push (measures : r.Measures n) (record : Record) :
    (r.push record).1.Measures n := ((measures.put _).put record).withCount _

theorem Measures.pushLong {record : Record} {ring : Ring} {last : Bool} (measures : r.Measures n)
    (sent : r.pushLong record = .ok (ring, last)) : ring.Measures n := by
  unfold Ring.pushLong at sent
  split at sent
  · obtain ⟨rfl, -⟩ := Prod.mk.inj (Except.ok.inj sent)
    exact ((measures.put _).put _).withCount _
  · dsimp only at sent
    split at sent
    · cases sent
    · obtain ⟨rfl, -⟩ := Prod.mk.inj (Except.ok.inj sent)
      exact ((measures.put _).put _).withCount _
  · obtain ⟨rfl, -⟩ := Prod.mk.inj (Except.ok.inj sent)
    exact measures

theorem measures_readersKeep (n : Nat) : ReadersKeep (·.Measures n) where
  gets bytes measures := measures.get bytes
  takesRow measures := measures.withCount _
  asks _ measures := ⟨(storeFrom_size ..).trans measures.capacity, measures.read, measures.write⟩

/-- Never more is free than the buffer has. -/
theorem Measures.free_le (measures : r.Measures n) : r.free ≤ n := by
  have capacity := measures.capacity
  have read := measures.read
  rw [free]
  split
  · exact Nat.le_of_eq capacity
  · split <;> omega

/-- What is taken in a buffer and what is free make up the buffer. -/
theorem Measures.used_add_free (measures : r.Measures n) : r.used + r.free = n := by
  rw [used, measures.capacity]
  exact Nat.sub_add_cancel measures.free_le

end Ring

/-- The buffer of a slot keeps its measures. -/
def Slot.KeepsMeasures (before after : Slot) : Prop :=
  ∀ n, before.ring.Measures n → after.ring.Measures n

namespace Lane

def KeepsMeasures (before after : Lane) : Prop := before.slot.KeepsMeasures after.slot

theorem KeepsMeasures.of_ring {l m : Lane} (same : m.slot.ring = l.slot.ring) :
    l.KeepsMeasures m := by
  intro n measures
  rw [same]
  exact measures

theorem Rests.keepsMeasures {l m : Lane} (rests : l.Rests m) : l.KeepsMeasures m := by
  have left {ring : Ring} (kept : ring = l.slot.ring ∨ ring = l.slot.ring.discard) {n : Nat}
      (measures : l.slot.ring.Measures n) : ring.Measures n := by
    rcases kept with same | emptied
    · rw [same]
      exact measures
    · rw [emptied]
      exact measures.discard
  intro n measures
  cases rests with
  | stays alike traffic => exact left (.inl alike.ring) measures
  | closes done kept => exact left kept measures

theorem keepsMeasures_strokes : Producer.Strokes KeepsMeasures where
  refl _ _ := id
  trans first second n := second n ∘ first n
  counts _ _ _ := id
  pushes l record n measures := by
    rw [push_ring]
    exact measures.push record
  sends sent _ measures := measures.pushLong sent
  wakes _ _ := id
  ends _ _ := id

theorem keepsMeasures_obeys : Producer.Obeys KeepsMeasures where
  refl := keepsMeasures_strokes.refl
  trans := keepsMeasures_strokes.trans
  writes := keepsMeasures_strokes.write
  finishes := keepsMeasures_strokes.finish
  fails _ _ measures := measures.discard
  givesUp _ _ measures := measures.discard
  sweeps failed l := by
    apply KeepsMeasures.of_ring
    rcases Producer.sweepLane_slot failed l with same | ⟨ring, -⟩
    · rw [same]
    · exact ring

end Lane

theorem Consumer.readStep_keepsMeasures (c : Consumer) (canWait : Bool) (point : ReadPoint)
    (q : Queue) : q.Lanewise Lane.KeepsMeasures (c.readStep canWait point q).1 := by
  intro i inside
  by_cases same : c.index = i
  · subst same
    exact fun n => readStep_keeps inside (Ring.measures_readersKeep n) canWait point
  · rw [(c.readStep_frame canWait point q).others i same]
    exact .of_ring rfl

theorem Lane.keepsMeasures_others : Queue.OthersObey Lane.KeepsMeasures where
  toSessionsObey := Lane.rests_sessions.imp Lane.Rests.keepsMeasures
  reads _ c canWait point := c.readStep_keepsMeasures canWait point _
  leaves _ _ i inside := (Consumer.reset_rests i inside).keepsMeasures

end RecordExchange
