import RecordExchange.Overflow
import RecordExchange.Proofs.Ring.Rows

set_option autoImplicit false

/-!
The overflow store is a queue of records.

`Holds s records` says which records the store holds, oldest first: those in memory, then the one
read ahead, then those whose rows make up the unread part of the file. Adding, looking at and
taking a record act on this list as on a queue, wherever the records lie.
-/

namespace RecordExchange

namespace SpillFile

/-- The unread part of the file is the rows of these records. -/
structure Holds (f : SpillFile) (records : List Record) : Prop where
  inside : f.position ≤ f.bytes.size
  unread : f.bytes.toList.drop f.position = rowsBytes records
  short : ∀ record ∈ records, record.length ≤ LengthWord.maxLength

theorem empty_holds : empty.Holds [] := ⟨Nat.le_refl 0, rfl, List.forall_mem_nil _⟩

variable {f : SpillFile} {records : List Record} {record : Record}

theorem append_toList (f : SpillFile) (record : Record) :
    (f.append record).bytes.toList = f.bytes.toList ++ rowBytes record := by
  simp only [append, Array.toList_appendList, rowBytes, List.append_assoc]

theorem Holds.append (held : f.Holds records) (short : record.length ≤ LengthWord.maxLength) :
    (f.append record).Holds (records ++ [record]) := by
  have inside : f.position ≤ f.bytes.toList.length := held.inside
  refine ⟨?_, ?_, ?_⟩
  · change f.position ≤ (f.append record).bytes.toList.length
    rw [append_toList, List.length_append]
    omega
  · change (f.append record).bytes.toList.drop f.position = _
    rw [append_toList, List.drop_append_of_le_length inside, held.unread, rowsBytes_append,
      rowsBytes_cons, rowsBytes_nil, List.append_nil]
  · intro other member
    rcases List.mem_append.mp member with old | new
    · exact held.short other old
    · rw [List.mem_singleton.mp new]
      exact short

theorem Holds.isDrained_iff (held : f.Holds records) : f.isDrained = true ↔ records = [] := by
  have inside := held.inside
  have unread := congrArg List.length held.unread
  rw [List.length_drop, Array.length_toList] at unread
  rw [isDrained, decide_eq_true_iff, ← rowsBytes_eq_nil_iff, ← List.length_eq_zero_iff]
  omega

theorem Holds.next (held : f.Holds (record :: records)) :
    f.next.1 = some record ∧ f.next.2.Holds records := by
  have unread := held.unread
  rw [rowsBytes_cons, rowBytes, List.append_assoc] at unread
  have more : f.isDrained = false := by
    apply Bool.eq_false_iff.mpr
    rw [ne_eq, held.isDrained_iff]
    exact List.cons_ne_nil _ _
  have word : (f.bytes.extract f.position (f.position + LengthWord.size)).toList =
      LengthWord.encode record.length := by
    rw [Array.toList_extract, List.extract_eq_take_drop, Nat.add_sub_cancel_left, unread]
    exact List.take_left' (LengthWord.encode_length _)
  have length := LengthWord.decode_encode record.length (held.short record (List.mem_cons_self ..))
  have behind : f.bytes.toList.drop (f.position + LengthWord.size) =
      record ++ rowsBytes records := by
    rw [← List.drop_drop, unread]
    exact List.drop_left' (LengthWord.encode_length _)
  have payload : (f.bytes.extract (f.position + LengthWord.size)
      (f.position + LengthWord.size + record.length)).toList = record := by
    rw [Array.toList_extract, List.extract_eq_take_drop, Nat.add_sub_cancel_left, behind]
    exact List.take_left
  have size := congrArg List.length unread
  rw [List.length_drop, Array.length_toList, List.length_append, List.length_append,
    LengthWord.encode_length] at size
  have inside := held.inside
  have read : f.next = (some record,
      { f with position := f.position + LengthWord.size + record.length }) := by
    simp only [SpillFile.next, more, Bool.false_eq_true, ↓reduceIte, word, length, payload]
  rw [read]
  refine ⟨rfl, ?_, ?_, fun other member => held.short other (List.mem_cons_of_mem _ member)⟩
  · change f.position + LengthWord.size + record.length ≤ f.bytes.size
    omega
  · change f.bytes.toList.drop (f.position + LengthWord.size + record.length) = _
    rw [← List.drop_drop, behind]
    exact List.drop_left

end SpillFile

namespace OverflowStore

/-- The store holds these records, oldest first: those in memory, the one read ahead, and those in
the file. One that was read ahead keeps the file open. -/
structure Holds (s : OverflowStore) (records : List Record) : Prop where
  placed : ∃ filed, records = s.memory ++ s.head.toList ++ filed ∧
    match s.spill with
    | some file => file.Holds filed
    | none => filed = [] ∧ s.head = none
  length : s.length = records.length
  short : ∀ record ∈ records, record.length ≤ LengthWord.maxLength

variable {s : OverflowStore} {records : List Record} {record : Record}

theorem empty_holds (limit : Nat) : (empty limit).Holds [] :=
  ⟨⟨[], rfl, rfl, rfl⟩, rfl, List.forall_mem_nil _⟩

theorem push_length (s : OverflowStore) (record : Record) :
    (s.push record).length = s.length + 1 := by
  unfold OverflowStore.push
  cases s.spill with
  | some spilled => rfl
  | none =>
    dsimp only
    split <;> rfl

theorem Holds.push (held : s.Holds records) (short : record.length ≤ LengthWord.maxLength) :
    (s.push record).Holds (records ++ [record]) := by
  obtain ⟨filed, order, file⟩ := held.placed
  have length : (s.push record).length = (records ++ [record]).length := by
    rw [push_length, held.length, List.length_append, List.length_singleton]
  have described : ∀ other ∈ records ++ [record], other.length ≤ LengthWord.maxLength := by
    intro other member
    rcases List.mem_append.mp member with old | new
    · exact held.short other old
    · rw [List.mem_singleton.mp new]
      exact short
  refine ⟨?_, length, described⟩
  rw [order]
  unfold OverflowStore.push
  cases opened : s.spill with
  | some spilled =>
    rw [opened] at file
    refine ⟨filed ++ [record], ?_, file.append short⟩
    simp only [List.append_assoc]
  | none =>
    rw [opened] at file
    obtain ⟨rfl, noHead⟩ := file
    dsimp only
    split
    · refine ⟨[], ?_, ?_⟩
      · simp only [noHead, Option.toList_none, List.append_nil]
      · simp only [noHead, and_self]
    · refine ⟨[record], ?_, SpillFile.empty_holds.append short⟩
      simp only [List.append_nil]

/-- Looking at the front shows the oldest record, and changes nothing that is held. -/
theorem Holds.front (held : s.Holds records) :
    s.front.1 = records.head? ∧ s.front.2.Holds records := by
  obtain ⟨filed, order, file⟩ := held.placed
  unfold OverflowStore.front
  split
  · rename_i first rest hasMemory
    refine ⟨?_, held⟩
    rw [order, hasMemory]
    rfl
  · rename_i first noMemory hasHead
    refine ⟨?_, held⟩
    rw [order, noMemory, hasHead]
    rfl
  · rename_i spilled noMemory noHead hasFile
    rw [hasFile] at file
    rw [noMemory, noHead] at order
    cases filed with
    | nil =>
      have drained := spilled.next_of_isDrained (file.isDrained_iff.mpr rfl)
      rw [drained, order]
      refine ⟨rfl, ⟨⟨[], ?_, file⟩, ?_, ?_⟩⟩
      · simp only [noMemory, Option.toList_none, List.append_nil]
      · rw [← order]
        exact held.length
      · rw [← order]
        exact held.short
    | cons first rest =>
      obtain ⟨found, others⟩ := file.next
      rw [order]
      refine ⟨found, ⟨⟨rest, ?_, others⟩, ?_, ?_⟩⟩
      · simp only [noMemory, found, Option.toList_none, Option.toList_some, List.nil_append,
          List.singleton_append]
      · rw [← order]
        exact held.length
      · rw [← order]
        exact held.short
  · rename_i noMemory noHead noFile
    rw [noFile] at file
    rw [noMemory, noHead, file.1] at order
    rw [order]
    rw [order] at held
    exact ⟨rfl, held⟩

theorem Holds.closeDrained (held : s.Holds records) : s.closeDrained.Holds records := by
  obtain ⟨filed, order, file⟩ := held.placed
  unfold OverflowStore.closeDrained
  split
  · rename_i empty
    rw [Bool.and_eq_true, Option.isNone_iff_eq_none] at empty
    obtain ⟨noHead, drained⟩ := empty
    cases opened : s.spill with
    | none =>
      rw [opened] at drained
      cases drained
    | some spilled =>
      rw [opened] at file drained
      have none : filed = [] := file.isDrained_iff.mp drained
      exact ⟨⟨[], by rw [order, none], rfl, noHead⟩, held.length, held.short⟩
  · exact held

theorem Holds.pop (held : s.Holds (record :: records)) :
    s.pop.1 = some record ∧ s.pop.2.Holds records := by
  obtain ⟨filed, order, file⟩ := held.placed
  have length : s.length - 1 = records.length := by
    rw [held.length, List.length_cons, Nat.add_sub_cancel]
  have short : ∀ other ∈ records, other.length ≤ LengthWord.maxLength :=
    fun other member => held.short other (List.mem_cons_of_mem _ member)
  unfold OverflowStore.pop
  split
  · rename_i first rest hasMemory
    rw [hasMemory, List.cons_append, List.cons_append] at order
    injection order with front others
    exact ⟨by rw [front], ⟨filed, others, file⟩, length, short⟩
  · rename_i first noMemory hasHead
    rw [noMemory, hasHead] at order
    injection order with front others
    refine ⟨by rw [front], Holds.closeDrained ⟨⟨filed, ?_, ?_⟩, length, short⟩⟩
    · rw [others, noMemory]
      rfl
    · cases opened : s.spill with
      | some spilled =>
        rw [opened] at file
        exact file
      | none =>
        rw [opened] at file
        exact ⟨file.1, rfl⟩
  · rename_i spilled noMemory noHead hasFile
    rw [hasFile] at file
    rw [noMemory, noHead] at order
    cases filed with
    | nil => cases order
    | cons first rest =>
      injection order with front others
      obtain ⟨found, left⟩ := file.next
      refine ⟨by rw [found, front], Holds.closeDrained ⟨⟨rest, ?_, left⟩, ?_, short⟩⟩
      · rw [others, noMemory, noHead]
        rfl
      · simp only [found, Option.isSome_some, ↓reduceIte]
        exact length
  · rename_i noMemory noHead noFile
    rw [noFile] at file
    rw [noMemory, noHead, file.1] at order
    cases order

end OverflowStore

end RecordExchange
