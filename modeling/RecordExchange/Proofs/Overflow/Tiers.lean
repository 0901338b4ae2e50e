import Mathlib.Algebra.GroupWithZero.Nat
import RecordExchange.Proofs.Overflow

set_option autoImplicit false

/-!
The overflow store as one queue over two tiers, along every history.

Records stay in memory as long as no file is open and they fit under the limit; all others go to
the file. The tiers never overtake each other: what is in memory is older than what is in the file,
and memory is used again only when nothing that was sent to the file is left. `Tiered` says so of
one store, each operation keeps it, and a history of requests is answered as a single queue would.
-/

namespace RecordExchange

namespace OverflowStore

variable {s : OverflowStore} {limit : Nat} {kept filed records : List Record} {record : Record}

/-- A file that was read back is not kept open for nothing. -/
def Settled (s : OverflowStore) : Prop :=
  ∀ file, s.spill = some file → s.head = none → file.isDrained = false

/-- The store holds the records `kept` in memory, within the limit, and behind them the records
`filed`, which were sent to the file. The oldest of these may have been read ahead. -/
structure Tiered (s : OverflowStore) (limit : Nat) (kept filed : List Record) : Prop where
  holds : s.Holds (kept ++ filed)
  memory : s.memory = kept
  limited : s.limit = limit
  bytes : s.memoryBytes = (kept.map List.length).sum
  bounded : s.memoryBytes ≤ limit
  ahead : s.head.isSome = true → kept = []
  settled : s.Settled

theorem empty_tiered (limit : Nat) : (empty limit).Tiered limit [] [] :=
  ⟨empty_holds limit, rfl, rfl, rfl, Nat.zero_le limit, nofun, nofun⟩

/-- What was sent to the file and not handed out: the record read ahead, and the unread part. -/
theorem Tiered.filed_eq (tiered : s.Tiered limit kept filed) :
    ∃ unread, filed = s.head.toList ++ unread ∧
      match s.spill with
      | some file => file.Holds unread
      | none => unread = [] ∧ s.head = none := by
  obtain ⟨unread, order, file⟩ := tiered.holds.placed
  rw [tiered.memory, List.append_assoc] at order
  exact ⟨unread, List.append_cancel_left order, file⟩

/-- A file is open exactly while some record that was sent there is still held. -/
theorem Tiered.isSpilled_iff (tiered : s.Tiered limit kept filed) :
    s.isSpilled = true ↔ filed ≠ [] := by
  obtain ⟨unread, order, file⟩ := tiered.filed_eq
  unfold isSpilled
  cases opened : s.spill with
  | none =>
    rw [opened] at file
    obtain ⟨none, noHead⟩ := file
    simp [order, none, noHead]
  | some spilled =>
    rw [opened] at file
    cases read : s.head with
    | some front => simp [order, read]
    | none =>
      have more := tiered.settled spilled opened read
      have some : unread ≠ [] := by
        intro none
        rw [file.isDrained_iff.mpr none] at more
        cases more
      simp [order, read, some]

theorem Tiered.spill_eq_none (tiered : s.Tiered limit kept []) : s.spill = none := by
  have closed : ¬ s.isSpilled = true := fun spilled => tiered.isSpilled_iff.mp spilled rfl
  rwa [isSpilled, Bool.not_eq_true, Option.isSome_eq_false_iff, Option.isNone_iff_eq_none] at closed

theorem append_isDrained {f : SpillFile} (held : f.Holds records)
    (short : record.length ≤ LengthWord.maxLength) : (f.append record).isDrained = false := by
  apply Bool.eq_false_iff.mpr
  rw [ne_eq, (held.append short).isDrained_iff]
  simp

/-- A record goes to memory exactly when no file is open and it fits under the limit. -/
theorem Tiered.push_memory (tiered : s.Tiered limit kept filed) (record : Record) :
    (s.push record).memory =
      if s.isSpilled = false ∧ s.memoryBytes + record.length ≤ limit then s.memory ++ [record]
      else s.memory := by
  unfold push isSpilled
  cases opened : s.spill with
  | some spilled => simp
  | none =>
    rw [tiered.limited]
    by_cases fits : s.memoryBytes + record.length ≤ limit
    · simp [fits]
    · simp [fits]

/-- A record that fits under the limit while no file is open stays in memory. -/
theorem Tiered.push_keep (tiered : s.Tiered limit kept [])
    (fits : s.memoryBytes + record.length ≤ limit) (short : record.length ≤ LengthWord.maxLength) :
    (s.push record).Tiered limit (kept ++ [record]) [] := by
  have closed := tiered.spill_eq_none
  have pushed : s.push record =
      { s with
        memory := s.memory ++ [record]
        memoryBytes := s.memoryBytes + record.length
        length := s.length + 1 } := by
    simp only [push, closed, tiered.limited, fits, ↓reduceIte]
  have holds := tiered.holds.push short
  obtain ⟨unread, order, file⟩ := tiered.filed_eq
  rw [closed] at file
  rw [List.append_nil] at holds
  rw [pushed] at holds ⊢
  refine ⟨by rwa [List.append_nil], ?_, tiered.limited, ?_, fits, ?_, ?_⟩
  · show s.memory ++ [record] = _
    rw [tiered.memory]
  · show s.memoryBytes + record.length = _
    simp [tiered.bytes]
  · intro ahead
    rw [show s.head = none from file.2] at ahead
    cases ahead
  · intro spilled opened
    exact absurd (closed.symm.trans opened) nofun

/-- Any other record goes to the file, behind those that went there before. -/
theorem Tiered.push_file (tiered : s.Tiered limit kept filed)
    (full : ¬ (s.isSpilled = false ∧ s.memoryBytes + record.length ≤ limit))
    (short : record.length ≤ LengthWord.maxLength) :
    (s.push record).Tiered limit kept (filed ++ [record]) := by
  have holds := tiered.holds.push short
  rw [List.append_assoc] at holds
  obtain ⟨unread, order, file⟩ := tiered.filed_eq
  cases opened : s.spill with
  | some spilled =>
    rw [opened] at file
    have pushed : s.push record =
        { s with spill := some (spilled.append record), length := s.length + 1 } := by
      simp only [push, opened]
    rw [pushed] at holds ⊢
    refine ⟨holds, tiered.memory, tiered.limited, tiered.bytes, tiered.bounded, tiered.ahead, ?_⟩
    rintro - ⟨⟩ -
    exact append_isDrained file short
  | none =>
    have crowded : ¬ s.memoryBytes + record.length ≤ s.limit := by
      intro fits
      apply full
      rw [isSpilled, opened, ← tiered.limited]
      exact ⟨rfl, fits⟩
    have pushed : s.push record =
        { s with spill := some (SpillFile.empty.append record), length := s.length + 1 } := by
      simp only [push, opened, crowded, ↓reduceIte]
    rw [pushed] at holds ⊢
    refine ⟨holds, tiered.memory, tiered.limited, tiered.bytes, tiered.bounded, tiered.ahead, ?_⟩
    rintro - ⟨⟩ -
    exact append_isDrained SpillFile.empty_holds short

/-- What a look at the front may change: a record is read ahead from the file. -/
theorem front_cases (s : OverflowStore) :
    s.front.2 = s ∨
      s.memory = [] ∧ s.head = none ∧ ∃ file, s.spill = some file ∧
        s.front = (file.next.1, { s with spill := some file.next.2, head := file.next.1 }) := by
  unfold front
  split
  · exact .inl rfl
  · exact .inl rfl
  · rename_i file noMemory noHead opened
    exact .inr ⟨noMemory, noHead, file, opened, rfl⟩
  · exact .inl rfl

theorem Tiered.front (tiered : s.Tiered limit kept filed) : s.front.2.Tiered limit kept filed := by
  have holds := tiered.holds.front.2
  rcases s.front_cases with same | ⟨noMemory, noHead, file, opened, looked⟩
  · rw [same]
    exact tiered
  · have more := tiered.settled file opened noHead
    obtain ⟨unread, -, held⟩ := tiered.filed_eq
    rw [opened] at held
    cases unread with
    | nil =>
      rw [held.isDrained_iff.mpr rfl] at more
      cases more
    | cons first rest =>
      obtain ⟨found, -⟩ := held.next
      rw [looked] at holds ⊢
      refine ⟨holds, tiered.memory, tiered.limited, tiered.bytes, tiered.bounded, ?_, ?_⟩
      · intro _
        rw [← tiered.memory, noMemory]
      · intro other _ read
        exact absurd (found.symm.trans read) nofun

/-- The front stays the same however often it is looked at. -/
theorem front_front (s : OverflowStore) : s.front.2.front = s.front := by
  rcases s.front_cases with same | ⟨noMemory, noHead, file, opened, looked⟩
  · rw [same]
  · rw [looked]
    cases read : file.next.1 with
    | some record => simp only [OverflowStore.front, noMemory]
    | none =>
      cases drained : file.isDrained with
      | true => simp [OverflowStore.front, noMemory, SpillFile.next, drained]
      | false => simp [SpillFile.next, drained] at read

theorem closeDrained_settled (s : OverflowStore) : s.closeDrained.Settled := by
  intro file opened noHead
  unfold closeDrained at opened noHead
  split at opened
  · cases opened
  · rename_i kept
    rw [if_neg kept] at noHead
    simpa [noHead, opened] using kept

@[simp] theorem closeDrained_memory (s : OverflowStore) : s.closeDrained.memory = s.memory := by
  unfold closeDrained
  split <;> rfl

@[simp] theorem closeDrained_memoryBytes (s : OverflowStore) :
    s.closeDrained.memoryBytes = s.memoryBytes := by
  unfold closeDrained
  split <;> rfl

@[simp] theorem closeDrained_limit (s : OverflowStore) : s.closeDrained.limit = s.limit := by
  unfold closeDrained
  split <;> rfl

theorem Settled.closeDrained (settled : s.Settled) : s.closeDrained = s := by
  unfold OverflowStore.closeDrained
  split
  · rename_i done
    rw [Bool.and_eq_true, Option.isNone_iff_eq_none, Option.any_eq_true] at done
    obtain ⟨noHead, file, opened, drained⟩ := done
    rw [settled file opened noHead] at drained
    cases drained
  · rfl

theorem Tiered.pop_kept (tiered : s.Tiered limit (record :: kept) filed) :
    s.pop.2.Tiered limit kept filed := by
  have holds := tiered.holds.pop.2
  have popped : s.pop = (some record,
      { s with
        memory := kept
        memoryBytes := s.memoryBytes - record.length
        length := s.length - 1 }) := by
    simp only [OverflowStore.pop, tiered.memory]
  have bytes := tiered.bytes
  have bounded := tiered.bounded
  rw [List.map_cons, List.sum_cons] at bytes
  rw [popped] at holds ⊢
  refine ⟨holds, rfl, tiered.limited, ?_, ?_, ?_, tiered.settled⟩
  · show s.memoryBytes - record.length = _
    omega
  · show s.memoryBytes - record.length ≤ limit
    omega
  · intro ahead
    exact absurd (tiered.ahead ahead) nofun

/-- Once memory is empty, records are taken from the file, which is given up with the last one. -/
theorem Tiered.pop_filed (tiered : s.Tiered limit [] (record :: filed)) :
    s.pop.2.Tiered limit [] filed := by
  have holds := tiered.holds.pop.2
  obtain ⟨rest, popped, memory, bytes, most⟩ : ∃ rest : OverflowStore,
      s.pop.2 = rest.closeDrained ∧ rest.memory = s.memory ∧ rest.memoryBytes = s.memoryBytes ∧
        rest.limit = s.limit := by
    unfold OverflowStore.pop
    split
    · rename_i front rest hasMemory
      rw [tiered.memory] at hasMemory
      cases hasMemory
    · exact ⟨_, rfl, rfl, rfl, rfl⟩
    · exact ⟨_, rfl, rfl, rfl, rfl⟩
    · exact ⟨_, rfl, rfl, rfl, rfl⟩
  have settled := rest.closeDrained_settled
  rw [popped] at holds ⊢
  refine ⟨holds, ?_, ?_, ?_, ?_, fun _ => rfl, settled⟩
  · rw [closeDrained_memory, memory, tiered.memory]
  · rw [closeDrained_limit, most, tiered.limited]
  · rw [closeDrained_memoryBytes, bytes, tiered.bytes]
  · rw [closeDrained_memoryBytes, bytes]
    exact tiered.bounded

theorem Tiered.pop_nil (tiered : s.Tiered limit [] []) : s.pop = (none, s) := by
  have closed := tiered.spill_eq_none
  obtain ⟨unread, -, file⟩ := tiered.filed_eq
  rw [closed] at file
  simp only [OverflowStore.pop, tiered.memory, file.2, closed, tiered.settled.closeDrained]

theorem Tiered.pop_fst (tiered : s.Tiered limit kept filed) : s.pop.1 = (kept ++ filed).head? := by
  have holds := tiered.holds
  cases order : kept ++ filed with
  | nil =>
    obtain ⟨rfl, rfl⟩ := List.append_eq_nil_iff.mp order
    rw [tiered.pop_nil]
    rfl
  | cons front rest =>
    rw [order] at holds
    exact holds.pop.1

inductive Request where
  | push (record : Record)
  /-- Shows the oldest record. -/
  | front
  /-- Takes the oldest record. -/
  | pop
  deriving DecidableEq

/-- Only records that a length word can describe are pushed. -/
def Request.IsShort : Request → Prop
  | .push record => record.length ≤ LengthWord.maxLength
  | .front => True
  | .pop => True

instance : (request : Request) → Decidable request.IsShort
  | .push record => inferInstanceAs (Decidable (record.length ≤ LengthWord.maxLength))
  | .front => .isTrue trivial
  | .pop => .isTrue trivial

/-- A store and its history: what was pushed, each record with whether it went to the file, which
shows in memory not having grown; and what was popped. -/
structure History where
  store : OverflowStore
  pushed : List (Record × Bool)
  popped : List Record

namespace History

variable {h : History}

def start (limit : Nat) : History := ⟨empty limit, [], []⟩

def perform (h : History) : Request → History
  | .push record =>
    let wentToFile := decide ((h.store.push record).memory = h.store.memory)
    { h with store := h.store.push record, pushed := h.pushed ++ [(record, wentToFile)] }
  | .front => { h with store := h.store.front.2 }
  | .pop => { h with store := h.store.pop.2, popped := h.popped ++ h.store.pop.1.toList }

def run (h : History) (requests : List Request) : History := requests.foldl perform h

/-- Pushed and not popped yet, with where each record went. -/
def held (h : History) : List (Record × Bool) := h.pushed.drop h.popped.length

/-- What was pushed is what was popped, what is in memory, and what was sent to the file, in this
order. -/
structure Ordered (h : History) (limit : Nat) (kept filed : List Record) : Prop where
  tiered : h.store.Tiered limit kept filed
  order : ∃ past, past.map Prod.fst = h.popped ∧
    h.pushed = past ++ (kept.map (·, false) ++ filed.map (·, true))

theorem Ordered.push (ordered : h.Ordered limit kept filed)
    (short : record.length ≤ LengthWord.maxLength) :
    ∃ kept' filed', (h.perform (.push record)).Ordered limit kept' filed' := by
  obtain ⟨tiered, past, popped, pushed⟩ := ordered
  have memory := tiered.push_memory record
  by_cases fits : h.store.isSpilled = false ∧ h.store.memoryBytes + record.length ≤ limit
  · have none : filed = [] := by
      cases filed with
      | nil => rfl
      | cons first rest =>
        rw [tiered.isSpilled_iff.mpr (List.cons_ne_nil _ _)] at fits
        cases fits.1
    subst none
    rw [if_pos fits] at memory
    refine ⟨kept ++ [record], [], tiered.push_keep fits.2 short, past, popped, ?_⟩
    simp [perform, memory, pushed]
  · rw [if_neg fits] at memory
    refine ⟨kept, filed ++ [record], tiered.push_file fits short, past, popped, ?_⟩
    simp [perform, memory, pushed]

theorem Ordered.pop (ordered : h.Ordered limit kept filed) :
    ∃ kept' filed', (h.perform .pop).Ordered limit kept' filed' := by
  obtain ⟨tiered, past, popped, pushed⟩ := ordered
  have answer := tiered.pop_fst
  match kept, filed with
  | record :: kept, filed =>
    refine ⟨kept, filed, tiered.pop_kept, past ++ [(record, false)], ?_, ?_⟩
    · simp [perform, answer, popped]
    · simp [perform, pushed]
  | [], record :: filed =>
    refine ⟨[], filed, tiered.pop_filed, past ++ [(record, true)], ?_, ?_⟩
    · simp [perform, answer, popped]
    · simp [perform, pushed]
  | [], [] =>
    refine ⟨[], [], ?_, past, ?_, pushed⟩
    · rw [perform, tiered.pop_nil]
      exact tiered
    · simp [perform, answer, popped]

theorem Ordered.perform (ordered : h.Ordered limit kept filed) {request : Request}
    (short : request.IsShort) :
    ∃ kept' filed', (h.perform request).Ordered limit kept' filed' := by
  cases request with
  | push record => exact ordered.push short
  | front => exact ⟨kept, filed, ordered.tiered.front, ordered.order⟩
  | pop => exact ordered.pop

theorem Ordered.run (ordered : h.Ordered limit kept filed) {requests : List Request}
    (short : ∀ request ∈ requests, request.IsShort) :
    ∃ kept' filed', (h.run requests).Ordered limit kept' filed' := by
  induction requests generalizing h kept filed with
  | nil => exact ⟨kept, filed, ordered⟩
  | cons request rest ih =>
    obtain ⟨kept', filed', next⟩ := ordered.perform (short request List.mem_cons_self)
    exact ih next fun other member => short other (List.mem_cons_of_mem _ member)

theorem Ordered.held_eq (ordered : h.Ordered limit kept filed) :
    h.held = kept.map (·, false) ++ filed.map (·, true) := by
  obtain ⟨-, past, popped, pushed⟩ := ordered
  have length : h.popped.length = past.length := by rw [← popped, List.length_map]
  rw [held, pushed, length, List.drop_left]

end History

/-- A store answers as a queue of the records `held`, oldest first, of which those marked went to
the file. -/
structure TwoTierFifo (limit : Nat) (held : List (Record × Bool)) (s : OverflowStore) : Prop where
  length : s.length = held.length
  isEmpty : s.isEmpty = true ↔ held = []
  /-- A pop brings the oldest record, and none only when none is held. -/
  pops : s.pop.1 = (held.map Prod.fst).head?
  /-- A look shows the same record, and so does another one. -/
  shows : s.front.1 = (held.map Prod.fst).head?
  showsAgain : s.front.2.front = s.front
  memory : s.memory = (held.filter (!·.2)).map Prod.fst
  /-- The records in memory stay within the limit. -/
  bytes : s.memoryBytes = (s.memory.map List.length).sum
  bounded : s.memoryBytes ≤ limit
  /-- Beside them there is at most the front record, read ahead from the file, and only once memory
  is empty. -/
  ahead : ∀ record, s.head = some record → s.memory = [] ∧ held.head? = some (record, true)
  isSpilled : s.isSpilled = true ↔ ∃ entry ∈ held, entry.2 = true
  /-- A new record goes to memory exactly if nothing is spilled and it fits under the limit. -/
  admits : ∀ record, (s.push record).memory =
    if s.isSpilled = false ∧ s.memoryBytes + record.length ≤ limit then s.memory ++ [record]
    else s.memory

theorem Tiered.twoTierFifo (tiered : s.Tiered limit kept filed) :
    TwoTierFifo limit (kept.map (·, false) ++ filed.map (·, true)) s := by
  have records : (kept.map (·, false) ++ filed.map (·, true)).map Prod.fst = kept ++ filed := by
    simp [Function.comp_def]
  have length : s.length = (kept.map (·, false) ++ filed.map (·, true)).length := by
    rw [tiered.holds.length, ← records, List.length_map]
  constructor
  · exact length
  · rw [isEmpty, decide_eq_true_iff, length, List.length_eq_zero_iff]
  · rw [records]
    exact tiered.pop_fst
  · rw [records]
    exact tiered.holds.front.1
  · exact s.front_front
  · rw [tiered.memory]
    simp [Function.comp_def, List.filter_eq_self.mpr, List.filter_eq_nil_iff.mpr]
  · rw [tiered.memory]
    exact tiered.bytes
  · exact tiered.bounded
  · intro record read
    have none := tiered.ahead (read ▸ rfl)
    obtain ⟨unread, order, -⟩ := tiered.filed_eq
    rw [tiered.memory]
    exact ⟨none, by simp [none, order, read]⟩
  · rw [tiered.isSpilled_iff, ne_eq, List.eq_nil_iff_forall_not_mem]
    simp
  · exact tiered.push_memory

/-- Whatever a new store is asked for, in any order and under any limit: what was popped are the
first of the records pushed, in their order, and the store answers as a queue of the others, those
that fitted kept in memory and the rest in the file. -/
theorem history_twoTierFifo (limit : Nat) (requests : List Request)
    (short : ∀ request ∈ requests, request.IsShort) :
    let h := (History.start limit).run requests
    h.pushed.map Prod.fst = h.popped ++ h.held.map Prod.fst ∧ TwoTierFifo limit h.held h.store := by
  intro h
  have start : (History.start limit).Ordered limit [] [] := ⟨empty_tiered limit, [], rfl, rfl⟩
  obtain ⟨kept, filed, ordered⟩ : ∃ kept filed, h.Ordered limit kept filed := start.run short
  rw [ordered.held_eq]
  refine ⟨?_, ordered.tiered.twoTierFifo⟩
  obtain ⟨past, popped, pushed⟩ := ordered.order
  rw [pushed, List.map_append, popped]

/-- Under a limit of three bytes the second record opens the file, and later ones follow it there
though they would fit. The first is popped, the second read ahead. -/
def spilling : List Request :=
  [.push [1, 2], .push [3, 4], .push [5], .pop, .front, .push [6]]

theorem history_twoTierFifo_spilling :
    (∀ request ∈ spilling, request.IsShort) ∧
      ((History.start 3).run spilling).pushed =
        [([1, 2], false), ([3, 4], true), ([5], true), ([6], true)] ∧
      ((History.start 3).run spilling).popped = [[1, 2]] ∧
      ((History.start 3).run spilling).store.head = some [3, 4] ∧
      TwoTierFifo 3 [([3, 4], true), ([5], true), ([6], true)]
        ((History.start 3).run spilling).store := by
  have short : ∀ request ∈ spilling, request.IsShort := by decide
  have held : ((History.start 3).run spilling).held =
      [([3, 4], true), ([5], true), ([6], true)] := by decide
  obtain ⟨-, fifo⟩ := history_twoTierFifo 3 spilling short
  rw [held] at fifo
  exact ⟨short, by decide, by decide, by decide, fifo⟩

end OverflowStore

end RecordExchange
