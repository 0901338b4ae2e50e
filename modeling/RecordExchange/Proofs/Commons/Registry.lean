import RecordExchange.Proofs.Commons.Refinement

set_option autoImplicit false

/-!
The registry after every run, whoever made its moves.

The tables agree, every queue carries the name of the claim that created it, and a claim on a new
queue finds a place and a block as long as a place is free. That every queue is referred to needs
that no count overflows and that nobody had to stop at tables at odds.
-/

namespace RecordExchange

namespace Register

variable {r : Register} {i : Nat} {name : String}

/-- Every queue is referred to. -/
def Counted (r : Register) : Prop := ∀ i, (r.title i).live = true → (r.title i).references ≠ 0

theorem Counted.add (counted : r.Counted) (i : Nat)
    (room : (r.title i).live = true → (r.title i).references + 1 ≠ 0) :
    (r.setReferences i ((r.title i).references + 1)).Counted := by
  intro j live
  by_cases same : j = i
  · subst same
    rw [setReferences_title_self] at live ⊢
    exact room live
  · rw [setReferences_title_other r same] at live ⊢
    exact counted j live

/-- A queue that is not removed with its last reference has tables at odds. -/
theorem Counted.drop (counted : r.Counted) (i : Nat) (name : String)
    (agree : (r.drop i name).2 = false) : (r.drop i name).1.Counted := by
  have others {n : UInt32} {j : Nat} (other : j ≠ i)
      (live : ((r.setReferences i n).title j).live = true) :
      ((r.setReferences i n).title j).references ≠ 0 := by
    rw [setReferences_title_other r other] at live ⊢
    exact counted j live
  intro j live
  rcases r.drop_cases i name with ⟨more, dropped⟩ | ⟨-, -, dropped⟩ | ⟨-, -, dropped⟩
  · rw [dropped] at live ⊢
    by_cases same : j = i
    · subst same
      rw [setReferences_title_self]
      exact more
    · exact others same live
  · rw [dropped] at live ⊢
    by_cases same : j = i
    · subst same
      rw [remove_title_self] at live
      cases live
    · rw [remove_title_other _ same] at live ⊢
      exact others same live
  · rw [dropped] at agree
    cases agree

end Register

namespace Ledger

variable {l after : Ledger} {move : Move}

/-- Every queue carries, as its key, the name its place was laid out for last. -/
def Titled (l : Ledger) : Prop :=
  ∀ i, (l.register.title i).live = true → ∃ name earlier, l.laidOut i = name :: earlier ∧
    isQueueName name = true ∧ (l.register.title i).key = nameKey name

theorem Titled.setReferences (titled : l.Titled) (i : Nat) (n : UInt32) :
    { l with register := l.register.setReferences i n }.Titled := by
  intro j live
  obtain ⟨same, key, -⟩ := Register.setReferences_title l.register i n j
  obtain ⟨name, earlier, laid, valid, titled⟩ := titled j (same ▸ live)
  exact ⟨name, earlier, laid, valid, key.trans titled⟩

theorem Titled.drop (titled : l.Titled) (i : Nat) (name : String) : (l.drop i name).Titled := by
  intro j live
  obtain ⟨before, key, -⟩ := Register.drop_title l.register i name j
  obtain ⟨name, earlier, laid, valid, titled⟩ := titled j (before live)
  exact ⟨name, earlier, laid, valid, key.trans titled⟩

theorem Step.titled (step : Step l move after) (titled : l.Titled) : after.Titled := by
  cases step with
  | quiet => exact titled
  | @create _ session name _ i b valid =>
    intro j live
    by_cases same : j = i
    · subst same
      refine ⟨name, l.laidOut j, Function.update_self .., valid, ?_⟩
      rw [Register.layOut_title_self]
    · rw [Register.layOut_title_other l.register same] at live ⊢
      obtain ⟨name, earlier, laid, valid, key⟩ := titled j live
      exact ⟨name, earlier, (Function.update_of_ne same ..).trans laid, valid, key⟩
  | join => exact titled.setReferences _ _
  | takeProducer => exact titled.setReferences _ _
  | takeConsumer => exact titled
  | give => exact titled.drop _ _
  | giveNothing => exact titled
  | settle => exact titled.drop _ _
  | leave => exact titled

/-- Once somebody found the tables at odds, it stays so. -/
theorem Step.corrupted (step : Step l move after) (sane : after.corrupted = false) :
    l.corrupted = false := by
  cases step with
  | give => exact (Bool.or_eq_false_iff.mp sane).1
  | settle => exact (Bool.or_eq_false_iff.mp sane).1
  | _ => exact sane

theorem Step.counted (step : Step l move after) (counted : l.register.Counted)
    (sane : after.corrupted = false)
    (room : ∀ i, (l.register.title i).live = true → (l.register.title i).references + 1 = 0 →
      (after.register.title i).references ≠ 0) : after.register.Counted := by
  have added {i : Nat} (more : after.register = (l.addReference i).register) :
      after.register.Counted := by
    rw [more]
    refine counted.add i fun live zero => room i live zero ?_
    rw [more]
    exact (congrArg Title.references (Register.setReferences_title_self ..)).trans zero
  cases step with
  | quiet => exact counted
  | @create _ _ name _ i b =>
    intro j live
    by_cases same : j = i
    · subst same
      rw [Register.layOut_title_self]
      exact (by decide : (1 : UInt32) ≠ 0)
    · rw [Register.layOut_title_other l.register same] at live ⊢
      exact counted j live
  | join => exact added rfl
  | takeProducer => exact added rfl
  | takeConsumer => exact counted
  | give => exact counted.drop _ _ (Bool.or_eq_false_iff.mp sane).2
  | giveNothing => exact counted
  | settle => exact counted.drop _ _ (Bool.or_eq_false_iff.mp sane).2
  | leave => exact counted

end Ledger

namespace Segment

variable {s : Segment} {g : Geometry} {live : Liveness} {session : Session} {name : String}
  {consumers : Nat}

/-- The queue a claim asks for can be laid out in a free place: there is always a block for it. -/
theorem createQueue_fresh (built : s.Built g) (consistent : s.register.Consistent)
    (name : String) (roomy : LengthWord.size < ringLength g.queueSize consumers) :
    ((∃ i, i < g.maxQueues ∧ (s.register.title i).live = false) ∧
        (s.createQueue g name consumers).2 = .ok ()) ∨
      (∀ i, i < g.maxQueues → (s.register.title i).live = true) ∧
        (s.createQueue g name consumers).2 = .error (.registryFull g.maxQueues) := by
  simp only [createQueue, Nat.not_le.mpr roomy, ↓reduceIte]
  cases place : s.freeEntry? g.maxQueues with
  | none => exact .inr ⟨fun i inside => freeEntry?_none place inside, rfl⟩
  | some i =>
    obtain ⟨b, pool⟩ := freeBlock?_of_freeEntry? built consistent place
    rw [pool]
    exact .inl ⟨⟨i, freeEntry?_some place⟩, rfl⟩

/-- A claim on a new queue that any entry can hold is refused only for want of a place. -/
theorem acquire_fresh (built : s.Built g) (consistent : s.register.Consistent) (retryLimit : Nat)
    (accepted : claimFault? g name consumers = none) (alive : live.check = .ok ())
    (roomy : LengthWord.size < ringLength g.queueSize consumers)
    (absent : s.find? g.maxQueues name = none) :
    ((∃ i, i < g.maxQueues ∧ (s.register.title i).live = false) ∧
        (s.acquire g live retryLimit session name consumers).2 = .ok ()) ∨
      (∀ i, i < g.maxQueues → (s.register.title i).live = true) ∧
        (s.acquire g live retryLimit session name consumers).2 =
          .error (.registryFull g.maxQueues) := by
  have looked : s.tryAcquire g live session name consumers =
      ((s.createQueue g name consumers).1,
        (s.createQueue g name consumers).2.map fun _ => .held) := by
    simp only [tryAcquire, alive, absent]
  rw [acquire_eq accepted, looked]
  rcases createQueue_fresh built consistent name roomy with ⟨place, made⟩ | ⟨full, failed⟩
  · rw [made]
    exact .inl ⟨place, rfl⟩
  · rw [failed]
    exact .inr ⟨full, rfl⟩

/-- There is always a block for a queue that finds a place. -/
theorem createQueue_finds_block (built : s.Built g) (consistent : s.register.Consistent)
    (name other : String) (consumers : Nat) :
    (s.createQueue g name consumers).2 ≠ .error (.noFreeSyncBlock other) := by
  by_cases roomy : LengthWord.size < ringLength g.queueSize consumers
  · rcases createQueue_fresh built consistent name roomy with ⟨-, made⟩ | ⟨-, full⟩
    · rw [made]
      intro same
      cases same
    · rw [full]
      exact fun same => Error.noConfusion (Except.error.inj same)
  · simp only [createQueue, Nat.le_of_not_lt roomy, ↓reduceIte]
    exact fun same => Error.noConfusion (Except.error.inj same)

theorem acquire_finds_block (built : s.Built g) (consistent : s.register.Consistent)
    (live : Liveness) (retryLimit : Nat) (session : Session) (name other : String)
    (consumers : Nat) :
    (s.acquire g live retryLimit session name consumers).2 ≠ .error (.noFreeSyncBlock other) := by
  intro failed
  rcases acquire_error failed with fault | dead | unmade | ⟨tries, stale⟩
  · rw [claimFault?] at fault
    split at fault
    · cases fault
    · split at fault
      · cases fault
      · cases fault
  · rw [Liveness.check] at dead
    split at dead
    · cases dead
    · split at dead
      · cases dead
      · cases dead
  · exact createQueue_finds_block built consistent name other consumers unmade
  · cases stale

end Segment

namespace Commons

variable {x : Commons}

/-- No count of references overflows. -/
def KeepsCount (x : Commons) (move : Move) : Prop :=
  ∀ i, i < x.geometry.maxQueues → (x.memory.register.title i).live = true →
    (x.memory.register.title i).references + 1 = 0 →
      ((x.perform move).memory.register.title i).references ≠ 0

instance (x : Commons) (move : Move) : Decidable (x.KeepsCount move) :=
  inferInstanceAs (Decidable (∀ i, i < x.geometry.maxQueues → _))

instance decidableAlong (allowed : Commons → Move → Prop)
    [decide : ∀ x move, Decidable (allowed x move)] :
    (x : Commons) → (moves : List Move) → Decidable (Along allowed x moves)
  | _, [] => .isTrue trivial
  | x, move :: rest =>
    @instDecidableAnd _ _ (decide x move) (decidableAlong allowed (x.perform move) rest)

theorem titled_run (founded : x.Founded) (titled : x.ledger.Titled) (moves : List Move) :
    (x.run moves).ledger.Titled := by
  induction moves generalizing x with
  | nil => exact titled
  | cons move rest ih =>
    exact ih (founded.perform move) ((perform_step founded move).1.titled titled)

theorem sane_before (founded : x.Founded) (moves : List Move)
    (sane : (x.run moves).ledger.corrupted = false) : x.ledger.corrupted = false := by
  induction moves generalizing x with
  | nil => exact sane
  | cons move rest ih =>
    exact (perform_step founded move).1.corrupted (ih (founded.perform move) sane)

theorem counted_run (founded : x.Founded) (counted : x.ledger.register.Counted)
    (moves : List Move) (room : Along KeepsCount x moves)
    (sane : (x.run moves).ledger.corrupted = false) : (x.run moves).ledger.register.Counted := by
  induction moves generalizing x with
  | nil => exact counted
  | cons move rest ih =>
    have founded' := founded.perform move
    refine ih founded' ?_ room.2 sane
    refine (perform_step founded move).1.counted counted (sane_before founded' rest sane) ?_
    intro i live full
    exact room.1 i (founded.built.within.entries i live) live full

/-- After every run of any sessions, names tell the queues apart, and each is that of the claim
which laid the queue out; the blocks that serve a queue are one for each; the lookup finds a queue
wherever it is; a claim on a new queue is refused only if every place is taken, and never for want
of a block; and, where no count overflowed and nobody stopped at tables at odds, every queue is
referred to. -/
theorem registry_invariant (c : Config) (creator : ProcessId) (moves : List Move) :
    let x := (start c creator).run moves
    let entry (i : Nat) : Entry := x.memory.entries.getD i default
    let block (b : Nat) : SyncBlock := x.memory.blocks.getD b default
    (∀ i j, (entry i).live = true → (entry j).live = true → (entry i).name = (entry j).name →
        i = j) ∧
      (∀ i, (entry i).live = true → ∃ name earlier, x.laidOut i = name :: earlier ∧
        (entry i).key.takeWhile (· != 0) = Text.toUtf8 name ∧ (entry i).name = name) ∧
      (∀ i, (entry i).live = true → (block (entry i).block).queue = some i) ∧
      (∀ b i, (block b).queue = some i → (entry i).live = true ∧ (entry i).block = b) ∧
      (∀ name i, x.memory.find? c.maxQueues name = some i ↔
        (entry i).live = true ∧ (entry i).name = name) ∧
      (∀ live retryLimit session name consumers,
        Segment.claimFault? x.geometry name consumers = none → live.check = .ok () →
        LengthWord.size < ringLength c.queueSize consumers →
        x.memory.find? c.maxQueues name = none →
        ((∃ i, i < c.maxQueues ∧ (entry i).live = false) ∧
            (x.memory.acquire x.geometry live retryLimit session name consumers).2 = .ok ()) ∨
          (∀ i, i < c.maxQueues → (entry i).live = true) ∧
            (x.memory.acquire x.geometry live retryLimit session name consumers).2 =
              .error (.registryFull c.maxQueues)) ∧
      (∀ live retryLimit session name other consumers,
        (x.memory.acquire x.geometry live retryLimit session name consumers).2 ≠
          .error (.noFreeSyncBlock other)) ∧
      (Along KeepsCount (start c creator) moves → x.memory.corrupted = false →
        ∀ i, (entry i).live = true → 1 ≤ (entry i).references.toNat) := by
  intro x entry block
  have founded : x.Founded := (Founded.start c creator).run moves
  have vacant := start_vacant c creator
  have titled : x.ledger.Titled :=
    titled_run (Founded.start c creator) (fun i live => absurd live (vacant i)) moves
  have sizes : x.geometry = ⟨c.maxQueues, c.maxConsumers, c.queueSize⟩ := run_geometry ..
  have queues : x.geometry.maxQueues = c.maxQueues := congrArg Geometry.maxQueues sizes
  have bytes : x.geometry.queueSize = c.queueSize := congrArg Geometry.queueSize sizes
  have consistent := founded.sound.consistent
  refine ⟨consistent.distinct, ?_, consistent.served, consistent.serving, ?_, ?_, ?_, ?_⟩
  · intro i live
    obtain ⟨name, earlier, laid, valid, key⟩ := titled i live
    have key : (entry i).key = nameKey name := key
    obtain ⟨front, whole⟩ := keyName_nameKey valid
    refine ⟨name, earlier, laid, ?_, ?_⟩
    · rw [key, front]
    · rw [Entry.name, key, whole]
  · intro name i
    rw [← queues, Segment.find?_eq_some_iff founded.built consistent]
    exact Title.isNamed_iff
  · intro live retryLimit session name consumers accepted alive roomy absent
    rw [← bytes] at roomy
    rw [← queues] at absent ⊢
    exact Segment.acquire_fresh founded.built consistent retryLimit accepted alive roomy absent
  · intro live retryLimit session name other consumers
    exact Segment.acquire_finds_block founded.built consistent live retryLimit session name other
      consumers
  · intro room sane i live
    have counted := counted_run (Founded.start c creator) (fun i live => absurd live (vacant i))
      moves room sane i live
    rw [Nat.one_le_iff_ne_zero]
    intro zero
    exact counted (UInt32.toNat_inj.mp zero)

/-- Two queues are claimed, the first is given up, and a third one takes its place. -/
def reusedPlace : List Move :=
  [.acquire undisturbed ⟨100, 0⟩ "left" 1, .acquire undisturbed ⟨101, 1⟩ "right" 1,
    .release undisturbed ⟨100, 0⟩ "left", .acquire undisturbed ⟨100, 0⟩ "next" 1]

theorem registry_invariant_reusedPlace :
    Along KeepsCount (start narrow 1) reusedPlace ∧
      ((start narrow 1).run reusedPlace).memory.corrupted = false ∧
      (∀ i, i < 2 →
        1 ≤ (((start narrow 1).run reusedPlace).memory.entries.getD i default).references.toNat) ∧
      ((start narrow 1).run reusedPlace).memory.find? 2 "next" = some 0 ∧
      (((start narrow 1).run reusedPlace).memory.acquire ⟨2, 2, 197⟩ undisturbed 3 ⟨100, 0⟩
        "left" 1).2 = .error (.registryFull 2) := by
  have room : Along KeepsCount (start narrow 1) reusedPlace := by decide +kernel
  have sane : ((start narrow 1).run reusedPlace).memory.corrupted = false := by decide +kernel
  have taken : ∀ i, i < 2 →
      (((start narrow 1).run reusedPlace).memory.entries.getD i default).live = true := by
    decide +kernel
  obtain ⟨-, -, -, -, found, claims, -, counted⟩ := registry_invariant narrow 1 reusedPlace
  refine ⟨room, sane, fun i inside => counted room sane i (taken i inside), ?_, ?_⟩
  · exact (found "next" 0).mpr ⟨taken 0 (by decide), by decide +kernel⟩
  · rcases claims undisturbed 3 ⟨100, 0⟩ "left" 1 (by decide +kernel) rfl (by decide)
      (by decide +kernel) with ⟨⟨i, inside, free⟩, -⟩ | ⟨-, refused⟩
    · exact absurd (taken i inside) (free ▸ Bool.false_ne_true)
    · exact refused

end Commons

end RecordExchange
