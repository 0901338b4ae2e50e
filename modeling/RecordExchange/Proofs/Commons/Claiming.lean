import RecordExchange.Proofs.Commons.Actions
import RecordExchange.Proofs.Commons.Allotment

set_option autoImplicit false

/-!
A claim, from the call to its answer.

A call looks at the registry until the claim stands or it has looked often enough, and between two
looks everybody else may move. A look that finds the queue of an earlier execution leaves no trace,
so the first other one settles the call; and while a queue has no producer, every claim on it joins.
-/

namespace RecordExchange

/-- A queue is there for a session if it has no producer yet, or if the first slot of the session's
node is not done. -/
def Entry.Welcomes (e : Entry) (session : Session) : Prop :=
  e.producerPid = 0 ∨ ∃ k, k < e.slots.size ∧ (e.slots.getD k default).node = session.node ∧
    (∀ j, j < k → (e.slots.getD j default).node ≠ session.node) ∧
    (e.slots.getD k default).status ≠ .done

/-- Any other queue is taken for one of an earlier execution. -/
theorem Queue.isStale_eq_false_iff {q : Queue} {session : Session} :
    q.isStale session = false ↔ q.entry.Welcomes session := by
  have slot (k : Nat) : (q.entry.slots.getD k default) = (q.lane k).slot := rfl
  unfold Queue.isStale Entry.Welcomes
  rw [Bool.and_eq_false_iff, bne_eq_false_iff_eq]
  refine or_congr_right ?_
  cases mine : q.slotOf? session.node with
  | none =>
    refine ⟨nofun, fun ⟨k, inside, own, _⟩ => ?_⟩
    exact absurd own (Queue.slotOf?_eq_none.mp mine k inside)
  | some i =>
    obtain ⟨inside, own, first⟩ := Queue.slotOf?_eq_some.mp mine
    dsimp only
    rw [beq_eq_false_iff_ne]
    constructor
    · exact fun unfinished => ⟨i, inside, own, first, unfinished⟩
    · rintro ⟨k, inside', own', first', unfinished⟩
      obtain rfl := Option.some_inj.mp
        (mine.symm.trans (Queue.slotOf?_eq_some.mpr ⟨inside', own', first'⟩))
      exact unfinished

namespace Segment

variable {s t : Segment} {g : Geometry} {live : Liveness} {session : Session} {name : String}
  {consumers i : Nat}

/-- From `s` to `t` nothing happened but that a queue was laid out in a place, with as many new
slots as were asked for, one reference and no producer. -/
structure LaysOut (s t : Segment) (i : Nat) (name : String) (consumers : Nat) : Prop where
  live : (t.entries.getD i default).live = true
  name : (t.entries.getD i default).name = name
  size : (t.entries.getD i default).slots.size = consumers
  fresh : ∀ k, k < consumers → (t.slotAt i k).node = Slot.unassigned ∧ (t.slotAt i k).pid = 0 ∧
    (t.slotAt i k).status = .active ∧ (t.slotAt i k).ring.count = .empty
  references : (t.entries.getD i default).references = 1
  producer : t.producerOf i = ⟨0, Slot.unassigned⟩
  pool : (s.blocks.getD (t.entries.getD i default).block default).queue = none
  serves : (t.blocks.getD (t.entries.getD i default).block default).queue = some i
  entries : ∀ e, e ≠ i → t.entries.getD e default = s.entries.getD e default
  blocks : ∀ b, b ≠ (t.entries.getD i default).block →
    t.blocks.getD b default = s.blocks.getD b default
  rest : t.size = s.size ∧ t.header = s.header ∧ t.corrupted = s.corrupted

theorem format_laysOut (valid : isQueueName name = true) (present : i < s.entries.size) {b : Nat}
    (inside : b < s.blocks.size) (pool : (s.blocks.getD b default).queue = none)
    (consumers ringLen : Nat) :
    s.LaysOut (s.setQueueAt i b ⟨(s.queueAt i b).entry.format name consumers ringLen b,
      (s.queueAt i b).sync.assign i consumers⟩) i name consumers := by
  have entry : (s.setQueueAt i b ⟨(s.queueAt i b).entry.format name consumers ringLen b,
      (s.queueAt i b).sync.assign i consumers⟩).entries.getD i default =
        (s.queueAt i b).entry.format name consumers ringLen b := by
    rw [setQueueAt_entry present]
  have vacant := s.format_vacant present b name consumers ringLen
  have size : ((s.queueAt i b).entry.format name consumers ringLen b).slots.size = consumers :=
    Array.size_ofFn
  constructor
  · rw [entry]
    rfl
  · rw [entry]
    exact (keyName_nameKey valid).2
  · rw [entry]
    exact size
  · intro k inside
    rw [slotAt, entry, Entry.format_slot _ name ringLen b inside]
    exact ⟨rfl, rfl, rfl, rfl⟩
  · rw [entry]
    rfl
  · exact vacant.producer
  · rw [entry]
    exact pool
  · rw [entry]
    change ((_ : Array SyncBlock).getD b default).queue = _
    rw [setQueueAt_block inside]
    rfl
  · exact fun e other => setQueueAt_entry_other other
  · intro d other
    rw [entry] at other
    exact setQueueAt_block_other other
  · exact ⟨rfl, rfl, rfl⟩

/-- A look for a queue that is there joins it or finds that it has to wait. -/
theorem tryAcquire_present (alive : live.check = .ok ())
    (found : s.find? g.maxQueues name = some i) (consumers : Nat) :
    s.tryAcquire g live session name consumers =
      if (s.queue (s.handleAt i)).isStale session then (s, .ok .stale)
      else (s.setQueue (s.handleAt i) (s.queue (s.handleAt i)).addReference, .ok .held) := by
  simp only [tryAcquire, alive, found]

/-- The segment with one reference more to the queue in a place, and nothing else changed. -/
def refer (s : Segment) (i : Nat) : Segment :=
  { s with
    entries := s.entries.setIfInBounds i
      { s.entries.getD i default with references := (s.entries.getD i default).references + 1 } }

theorem refer_entry (present : i < s.entries.size) :
    (s.refer i).entries.getD i default =
      { s.entries.getD i default with references := (s.entries.getD i default).references + 1 } := by
  rw [refer, getD_setIfInBounds, if_pos ⟨rfl, present⟩]

theorem setQueue_addReference (s : Segment) (i : Nat) :
    s.setQueue (s.handleAt i) (s.queue (s.handleAt i)).addReference = s.refer i := by
  simp only [refer, setQueue, setQueueAt, queue, queueAt, Queue.addReference, setIfInBounds_getD]
  rfl

/-- A look for a queue that is not there creates it, if its buffers can hold a record and a place is
free. -/
theorem tryAcquire_absent (built : s.Built g) (consistent : s.register.Consistent)
    (alive : live.check = .ok ()) (valid : isQueueName name = true)
    (absent : s.find? g.maxQueues name = none) (session : Session) (consumers : Nat) :
    ringLength g.queueSize consumers ≤ LengthWord.size ∧
        s.tryAcquire g live session name consumers =
          (s, .error (.segmentTooSmall g.queueSize consumers)) ∨
      LengthWord.size < ringLength g.queueSize consumers ∧
        (∀ i, i < g.maxQueues → (s.entries.getD i default).live = true) ∧
        s.tryAcquire g live session name consumers = (s, .error (.registryFull g.maxQueues)) ∨
      LengthWord.size < ringLength g.queueSize consumers ∧
        ∃ i t, i < g.maxQueues ∧ (s.entries.getD i default).live = false ∧
          s.LaysOut t i name consumers ∧
          s.tryAcquire g live session name consumers = (t, .ok .held) := by
  simp only [tryAcquire, alive, absent, createQueue]
  by_cases small : ringLength g.queueSize consumers ≤ LengthWord.size
  · rw [if_pos small]
    exact .inl ⟨small, rfl⟩
  · right
    rw [if_neg small]
    cases place : s.freeEntry? g.maxQueues with
    | none => exact .inl ⟨Nat.lt_of_not_le small, fun i inside => freeEntry?_none place inside, rfl⟩
    | some i =>
      obtain ⟨b, pool⟩ := freeBlock?_of_freeEntry? built consistent place
      obtain ⟨inside, vacant⟩ := freeEntry?_some place
      obtain ⟨inside', unserved⟩ := freeBlock?_some pool
      rw [pool]
      refine .inr ⟨Nat.lt_of_not_le small, i, _, inside, vacant, ?_, rfl⟩
      exact format_laysOut valid (built.entries.symm ▸ inside) (built.blocks.symm ▸ inside') unserved
        consumers _

end Segment

def Move.asks (g : Geometry) (name : String) : Move → Bool
  | .acquire live _ other consumers =>
    other == name && (Segment.claimFault? g other consumers).isNone && live.check.isOk
  | _ => false

theorem Move.asks_iff {g : Geometry} {name : String} {move : Move} :
    move.asks g name = true ↔ ∃ live session consumers,
      move = .acquire live session name consumers ∧
        Segment.claimFault? g name consumers = none ∧ live.check = .ok () := by
  constructor
  · intro made
    match move, made with
    | .acquire live session other consumers, made =>
      simp only [asks, Bool.and_eq_true, beq_iff_eq, Option.isNone_iff_eq_none] at made
      obtain ⟨⟨rfl, accepted⟩, alive⟩ := made
      refine ⟨live, session, consumers, rfl, accepted, ?_⟩
      cases checked : live.check with
      | error cause =>
        rw [checked] at alive
        cases alive
      | ok _ => rfl
  · rintro ⟨live, session, consumers, rfl, accepted, alive⟩
    simp [asks, accepted, alive, Except.isOk, Except.toBool]

/-- A call for a claim, with what its session knows of at each look, and what the others do after
each look that was in vain. -/
structure ClaimCall where
  session : Session
  name : String
  consumers : Nat
  retryLimit : Nat
  live : Nat → Liveness
  amid : Nat → List Move

def ClaimCall.look (call : ClaimCall) (k : Nat) : Move :=
  .acquire (call.live k) call.session call.name call.consumers

namespace Commons

/-- How a call came out: the looks it took, its answer, and what is there when it returns. -/
structure ClaimResult where
  looks : Nat
  result : Except Error Unit
  after : Commons

/-- What the look number `k` of a call finds out, if that settles it. -/
def answer (x : Commons) (call : ClaimCall) (k : Nat) : Option (Except Error Unit) :=
  match (x.memory.tryAcquire x.geometry (call.live k) call.session call.name call.consumers).2 with
  | .error cause => some (.error cause)
  | .ok .held => some (.ok ())
  | .ok .stale => none

/-- A call that looked `looks` times before looks again, up to `retries` times more after that. -/
def claimFrom (x : Commons) (call : ClaimCall) (looks retries : Nat) : ClaimResult :=
  let after := x.perform (call.look looks)
  match x.answer call looks, retries with
  | some result, _ => ⟨looks + 1, result, after⟩
  | none, 0 => ⟨looks + 1, .error (.raceUnresolved call.name (looks + 1)), after⟩
  | none, retries + 1 => (after.run (call.amid looks)).claimFrom call (looks + 1) retries

/-- A call for a claim, with the moves that the others make meanwhile. -/
def claim (x : Commons) (call : ClaimCall) : ClaimResult :=
  match Segment.claimFault? x.geometry call.name call.consumers with
  | some fault => ⟨0, .error fault, x⟩
  | none => x.claimFrom call 0 (call.retryLimit - 1)

/-- What the others make of the commons while the first `k` looks of a call are in vain. -/
def meanwhile (x : Commons) (call : ClaimCall) : Nat → Commons
  | 0 => x
  | k + 1 => (x.meanwhile call k).run (call.amid k)

variable {x : Commons} {call : ClaimCall} {i k looks retries : Nat}

/-- How a call comes out that looked `looks` times before: the first look that is not in vain
settles it, or the last one that it may take is in vain too. -/
inductive Ends (x : Commons) (call : ClaimCall) (looks retries : Nat) : ClaimResult → Prop
  | settled (j : Nat) (result : Except Error Unit) (late : looks ≤ j) (soon : j ≤ looks + retries)
      (stale : ∀ k, looks ≤ k → k < j → (x.meanwhile call k).answer call k = none)
      (answered : (x.meanwhile call j).answer call j = some result) :
      Ends x call looks retries ⟨j + 1, result, (x.meanwhile call j).perform (call.look j)⟩
  | unresolved
      (stale : ∀ k, looks ≤ k → k ≤ looks + retries → (x.meanwhile call k).answer call k = none) :
      Ends x call looks retries ⟨looks + retries + 1,
        .error (.raceUnresolved call.name (looks + retries + 1)),
        x.meanwhile call (looks + retries)⟩

/-- A look that does not end in a claim leaves no trace. -/
theorem look_idle (other : x.answer call k ≠ some (.ok ())) : x.perform (call.look k) = x := by
  simp only [ClaimCall.look, perform, acquire]
  split
  · rfl
  · rcases x.memory.tryAcquire_cases x.geometry (call.live k) call.session call.name
      call.consumers with ⟨result, idle, looked⟩ | ⟨i, b, -, -, -, -, looked⟩ | ⟨i, -, looked⟩
    · rw [looked]
      rcases result with cause | held | stale
      · rfl
      · exact absurd rfl idle
      · rfl
    · exact absurd (by simp only [answer, looked]) other
    · exact absurd (by simp only [answer, looked]) other

theorem look_stale (stale : x.answer call k = none) : x.perform (call.look k) = x := by
  refine look_idle fun held => ?_
  cases stale.symm.trans held

theorem look_failed {cause : Error} (failed : x.answer call k = some (.error cause)) :
    x.perform (call.look k) = x := by
  refine look_idle fun held => ?_
  cases failed.symm.trans held

theorem claimFrom_answered {result : Except Error Unit}
    (answered : x.answer call looks = some result) (retries : Nat) :
    x.claimFrom call looks retries = ⟨looks + 1, result, x.perform (call.look looks)⟩ := by
  unfold claimFrom
  rw [answered]

theorem claimFrom_last (stale : x.answer call looks = none) :
    x.claimFrom call looks 0 =
      ⟨looks + 1, .error (.raceUnresolved call.name (looks + 1)), x⟩ := by
  unfold claimFrom
  rw [stale, look_stale stale]

theorem claimFrom_again (stale : x.answer call looks = none) (retries : Nat) :
    x.claimFrom call looks (retries + 1) =
      (x.run (call.amid looks)).claimFrom call (looks + 1) retries := by
  conv_lhs => unfold claimFrom
  rw [stale, look_stale stale]

theorem Ends.again {out : ClaimResult} (ends : x.Ends call (looks + 1) retries out)
    (first : (x.meanwhile call looks).answer call looks = none) :
    x.Ends call looks (retries + 1) out := by
  have more : looks + 1 + retries = looks + (retries + 1) := by omega
  cases ends with
  | settled j result late soon stale answered =>
    refine .settled j result (Nat.le_of_succ_le late) (more ▸ soon) (fun k late soon => ?_) answered
    rcases Nat.lt_or_eq_of_le late with later | rfl
    · exact stale k later soon
    · exact first
  | unresolved stale =>
    rw [more]
    refine .unresolved fun k late soon => ?_
    rcases Nat.lt_or_eq_of_le late with later | rfl
    · exact stale k later (more ▸ soon)
    · exact first

/-- A call takes looks until one settles it, with the moves of the others in between. -/
theorem claimFrom_ends (x : Commons) (call : ClaimCall) (looks retries : Nat) :
    x.Ends call looks retries ((x.meanwhile call looks).claimFrom call looks retries) := by
  -- looks in vain leave no trace, so what the next one finds is what the others made
  induction retries generalizing looks with
  | zero =>
    cases answered : (x.meanwhile call looks).answer call looks with
    | some result =>
      rw [claimFrom_answered answered]
      exact .settled looks result (Nat.le_refl _) (Nat.le_refl _)
        (fun k late soon => absurd soon (Nat.not_lt.mpr late)) answered
    | none =>
      rw [claimFrom_last answered]
      refine .unresolved fun k late soon => ?_
      obtain rfl := Nat.le_antisymm late soon
      exact answered
  | succ retries ih =>
    cases answered : (x.meanwhile call looks).answer call looks with
    | some result =>
      rw [claimFrom_answered answered]
      exact .settled looks result (Nat.le_refl _) (Nat.le_add_right ..)
        (fun k late soon => absurd soon (Nat.not_lt.mpr late)) answered
    | none =>
      rw [claimFrom_again answered]
      exact (ih (looks + 1)).again answered

theorem claim_accepted (accepted : Segment.claimFault? x.geometry call.name call.consumers = none) :
    x.claim call = x.claimFrom call 0 (call.retryLimit - 1) := by
  simp only [claim, accepted]

theorem claim_ends (accepted : Segment.claimFault? x.geometry call.name call.consumers = none) :
    x.Ends call 0 (call.retryLimit - 1) (x.claim call) :=
  claim_accepted accepted ▸ x.claimFrom_ends call 0 (call.retryLimit - 1)

theorem look_memory (accepted : Segment.claimFault? x.geometry call.name call.consumers = none)
    (k : Nat) : (x.perform (call.look k)).memory =
      (x.memory.tryAcquire x.geometry (call.live k) call.session call.name call.consumers).1 := by
  simp only [ClaimCall.look, perform, acquire, accepted]
  split
  · rename_i looked
    rw [looked]
  · rename_i looked
    rw [looked]

/-- What the registry makes of a call in one go goes by its first look. -/
theorem acquire_answer
    (accepted : Segment.claimFault? x.geometry call.name call.consumers = none) :
    x.memory.acquire x.geometry (call.live 0) call.retryLimit call.session call.name call.consumers =
      ((x.perform (call.look 0)).memory, (x.answer call 0).getD
        (.error (.raceUnresolved call.name (max 1 call.retryLimit)))) := by
  rw [Segment.acquire_eq accepted, look_memory accepted, answer]
  rcases x.memory.tryAcquire x.geometry (call.live 0) call.session call.name call.consumers with
    ⟨after, cause | held | stale⟩
  · rfl
  · rfl
  · rfl

theorem meanwhile_alone (alone : ∀ k, call.amid k = []) (k : Nat) : x.meanwhile call k = x := by
  induction k with
  | zero => rfl
  | succ k ih =>
    rw [meanwhile, ih, alone]
    rfl

/-- With nobody else at work a call comes to the same. -/
theorem claim_alone (x : Commons) (call : ClaimCall) (steady : ∀ k, call.live k = call.live 0)
    (alone : ∀ k, call.amid k = []) :
    x.memory.acquire x.geometry (call.live 0) call.retryLimit call.session call.name call.consumers =
      ((x.claim call).after.memory, (x.claim call).result) := by
  cases fault : Segment.claimFault? x.geometry call.name call.consumers with
  | some reason => simp only [claim, Segment.acquire, fault]
  | none =>
    have same (k : Nat) : (x.meanwhile call k).answer call k = x.answer call 0 := by
      rw [meanwhile_alone alone, answer, steady]
      rfl
    rw [acquire_answer fault]
    have ends := claim_ends fault
    generalize x.claim call = out at ends ⊢
    cases ends with
    | settled j result late soon stale answered =>
      obtain rfl : j = 0 := by
        by_contra later
        have first := stale 0 (Nat.le_refl _) (Nat.pos_of_ne_zero later)
        cases (first.symm.trans ((same 0).trans (same j).symm)).trans answered
      rw [show x.answer call 0 = some result from answered]
      rfl
    | unresolved stale =>
      have first : x.answer call 0 = none := stale 0 (Nat.le_refl _) (Nat.zero_le _)
      have looks : 0 + (call.retryLimit - 1) + 1 = max 1 call.retryLimit := by omega
      rw [first, meanwhile_alone alone, looks, look_stale first]
      rfl

theorem Founded.finds (founded : x.Founded) {e : Entry} (here : x.memory.entries.getD i default = e)
    (live : e.live = true) : x.memory.find? x.geometry.maxQueues e.name = some i :=
  (Segment.find?_eq_some_iff founded.built founded.sound.consistent).mpr
    (Title.isNamed_iff.mpr ⟨(congrArg Entry.live here).trans live, congrArg Entry.name here⟩)

/-- A claim on a queue that is there for its session joins it. -/
theorem perform_joins {live : Liveness} {session : Session} {name : String} {consumers : Nat}
    (accepted : Segment.claimFault? x.geometry name consumers = none) (alive : live.check = .ok ())
    (found : x.memory.find? x.geometry.maxQueues name = some i)
    (welcome : (x.memory.entries.getD i default).Welcomes session) :
    x.perform (.acquire live session name consumers) =
      { x with memory := x.memory.refer i, claims := (session, name) :: x.claims } := by
  have fresh : (x.memory.queue (x.memory.handleAt i)).isStale session = false :=
    Queue.isStale_eq_false_iff.mpr welcome
  simp only [perform, acquire, accepted, Segment.tryAcquire_present alive found, fresh,
    Bool.false_eq_true, if_false, Segment.setQueue_addReference, layingOut, found]

/-- As long as nobody else touches a queue without a producer, every claim on it joins. -/
theorem run_crowd (founded : x.Founded) {e : Entry} (here : x.memory.entries.getD i default = e)
    (live : e.live = true) (free : e.producerPid = 0) (moves : List Move)
    (crowd : Along (fun y move => move.asks y.geometry e.name = true ∨
      (y.perform move).memory.entries.getD i default = y.memory.entries.getD i default) x moves) :
    (x.run moves).memory.entries.getD i default = { e with
      references := e.references + UInt32.ofNat (moves.countP (Move.asks x.geometry e.name)) } := by
  -- the entry goes along, with the references that the moves made so far added to it
  induction moves generalizing x e with
  | nil =>
    exact here.trans (congrArg (fun n => { e with references := n }) (UInt32.add_zero _).symm)
  | cons move rest ih =>
    obtain ⟨first, others⟩ := crowd
    rw [← x.perform_geometry move]
    by_cases asks : move.asks x.geometry e.name = true
    · obtain ⟨checked, session, consumers, rfl, accepted, alive⟩ := Move.asks_iff.mp asks
      have present : i < x.memory.entries.size :=
        founded.built.entries ▸ (Segment.find?_some (founded.finds here live)).1
      have welcome : (x.memory.entries.getD i default).Welcomes session :=
        .inl ((congrArg Entry.producerPid here).trans free)
      have joined := perform_joins accepted alive (founded.finds here live) welcome
      have more : (x.perform (.acquire checked session e.name consumers)).memory.entries.getD i
          default = { e with references := e.references + 1 } := by
        rw [joined, Segment.refer_entry present, here]
      have count (n : Nat) :
          e.references + 1 + UInt32.ofNat n = e.references + UInt32.ofNat (n + 1) := by
        rw [UInt32.ofNat_add, UInt32.add_assoc, UInt32.add_comm 1]
        rfl
      rw [List.countP_cons_of_pos (x.perform_geometry _ ▸ asks)]
      exact (ih (founded.perform _) more live free others).trans
        (congrArg (fun n => { e with references := n }) (count _))
    · rw [List.countP_cons_of_neg (x.perform_geometry _ ▸ asks)]
      exact ih (founded.perform _) ((first.resolve_left asks).trans here) live free others

/-- A call that its first look settles returns after it. -/
theorem claim_of_answer (accepted : Segment.claimFault? x.geometry call.name call.consumers = none)
    {result : Except Error Unit} (answered : x.answer call 0 = some result) :
    x.claim call = ⟨1, result, x.perform (call.look 0)⟩ := by
  rw [claim_accepted accepted, claimFrom_answered answered]

theorem claim_of_error (accepted : Segment.claimFault? x.geometry call.name call.consumers = none)
    {cause : Error} (answered : x.answer call 0 = some (.error cause)) :
    x.claim call = ⟨1, .error cause, x⟩ := by
  rw [claim_of_answer accepted answered, look_failed answered]

/-- A call whose looks are all in vain gives up after the last one that it may take. -/
theorem claim_of_stale (accepted : Segment.claimFault? x.geometry call.name call.consumers = none)
    (stale : ∀ k, k < max 1 call.retryLimit → (x.meanwhile call k).answer call k = none) :
    x.claim call = ⟨max 1 call.retryLimit,
      .error (.raceUnresolved call.name (max 1 call.retryLimit)),
      x.meanwhile call (max 1 call.retryLimit - 1)⟩ := by
  have looks : 0 + (call.retryLimit - 1) + 1 = max 1 call.retryLimit := by omega
  rw [← looks, Nat.add_sub_cancel]
  have ends := claim_ends accepted
  generalize x.claim call = out at ends ⊢
  cases ends with
  | settled j result late soon others answered =>
    cases (stale j (looks ▸ Nat.lt_succ_of_le soon)).symm.trans answered
  | unresolved => rfl

/-- A look for a queue that is there settles the call unless it is of an earlier execution. -/
theorem answer_present (alive : (call.live k).check = .ok ())
    (found : x.memory.find? x.geometry.maxQueues call.name = some i) :
    x.answer call k = if (x.memory.queue (x.memory.handleAt i)).isStale call.session then none
      else some (.ok ()) := by
  rw [answer, Segment.tryAcquire_present alive found]
  cases (x.memory.queue (x.memory.handleAt i)).isStale call.session with
  | true => rfl
  | false => rfl

theorem Founded.meanwhile (founded : x.Founded) (call : ClaimCall) (k : Nat) :
    (x.meanwhile call k).Founded := by
  induction k with
  | zero => exact founded
  | succ k ih => exact ih.run _

/-- However many join a queue that was just laid out, before anybody else touches it, there is one
queue of that name, with a reference for each of them and the slots that it was laid out with. -/
theorem crowd_of_laysOut {s : Segment} {name : String} {consumers : Nat} (founded : x.Founded)
    (laid : s.LaysOut x.memory i name consumers) (later : List Move)
    (crowd : Along (fun y move => move.asks y.geometry name = true ∨
      (y.perform move).memory.entries.getD i default = y.memory.entries.getD i default) x later) :
    let entry (j : Nat) : Entry := (x.run later).memory.entries.getD j default
    (∀ j, (entry j).live = true ∧ (entry j).name = name ↔ j = i) ∧
      (entry i).references.toNat =
        (1 + later.countP (Move.asks x.geometry name)) % Word.values32 ∧
      (entry i).slots.size = consumers ∧
      (x.run later).memory.producerOf i = ⟨0, Slot.unassigned⟩ := by
  intro entry
  obtain ⟨live, rfl, size, -, one, producer, -⟩ := laid
  have joined : entry i = _ :=
    run_crowd founded rfl live (congrArg Session.pid producer) later crowd
  have here : (entry i).live = true ∧ (entry i).name = _ :=
    ⟨(congrArg Entry.live joined).trans live, congrArg Entry.name joined⟩
  refine ⟨fun j => ⟨fun there => ?_, ?_⟩, ?_, ?_, ?_⟩
  · exact (founded.run later).sound.consistent.distinct j i there.1 here.1
      (there.2.trans here.2.symm)
  · rintro rfl
    exact here
  · rw [joined, one, UInt32.toNat_add, UInt32.toNat_ofNat']
    exact Nat.add_mod_mod ..
  · exact (congrArg (fun e => e.slots.size) joined).trans size
  · exact (congrArg Entry.producer joined).trans producer

/-- A call for a queue that is not there is settled by its first look. -/
theorem claim_absent (founded : x.Founded)
    (accepted : Segment.claimFault? x.geometry call.name call.consumers = none)
    (alive : (call.live 0).check = .ok ())
    (absent : x.memory.find? x.geometry.maxQueues call.name = none) :
    ringLength x.geometry.queueSize call.consumers ≤ LengthWord.size ∧
        x.claim call = ⟨1, .error (.segmentTooSmall x.geometry.queueSize call.consumers), x⟩ ∨
      LengthWord.size < ringLength x.geometry.queueSize call.consumers ∧
        (∀ i, i < x.geometry.maxQueues → (x.memory.entries.getD i default).live = true) ∧
        x.claim call = ⟨1, .error (.registryFull x.geometry.maxQueues), x⟩ ∨
      LengthWord.size < ringLength x.geometry.queueSize call.consumers ∧
        ∃ i, i < x.geometry.maxQueues ∧ (x.memory.entries.getD i default).live = false ∧
          x.memory.LaysOut (x.perform (call.look 0)).memory i call.name call.consumers ∧
          x.claim call = ⟨1, .ok (), x.perform (call.look 0)⟩ := by
  have valid := (Segment.claimFault?_eq_none.mp accepted).1
  rcases Segment.tryAcquire_absent founded.built founded.sound.consistent alive valid absent
      call.session call.consumers with ⟨small, looked⟩ | ⟨roomy, full, looked⟩ |
      ⟨roomy, i, t, inside, vacant, laid, looked⟩
  · exact .inl ⟨small, claim_of_error accepted (by rw [answer, looked])⟩
  · exact .inr (.inl ⟨roomy, full, claim_of_error accepted (by rw [answer, looked])⟩)
  · have made : (x.perform (call.look 0)).memory = t := by rw [look_memory accepted, looked]
    refine .inr (.inr ⟨roomy, i, inside, vacant, made ▸ laid, ?_⟩)
    exact claim_of_answer accepted (by rw [answer, looked])

/-- A call for a queue that is there for its session joins it at the first look. -/
theorem claim_joins (accepted : Segment.claimFault? x.geometry call.name call.consumers = none)
    (alive : (call.live 0).check = .ok ())
    (found : x.memory.find? x.geometry.maxQueues call.name = some i)
    (welcome : (x.memory.entries.getD i default).Welcomes call.session) :
    x.claim call = ⟨1, .ok (),
      { x with memory := x.memory.refer i, claims := (call.session, call.name) :: x.claims }⟩ := by
  have fresh : (x.memory.queue (x.memory.handleAt i)).isStale call.session = false :=
    Queue.isStale_eq_false_iff.mpr welcome
  have answered : x.answer call 0 = some (.ok ()) := by
    rw [answer_present alive found, fresh]
    rfl
  rw [claim_of_answer accepted answered, ClaimCall.look, perform_joins accepted alive found welcome]

/-- A call for a queue of an earlier execution that stays as it is gives up after the last look. -/
theorem claim_waits (founded : x.Founded)
    (accepted : Segment.claimFault? x.geometry call.name call.consumers = none)
    (alive : ∀ k, (call.live k).check = .ok ())
    (live : (x.memory.entries.getD i default).live = true)
    (named : (x.memory.entries.getD i default).name = call.name)
    (leftOver : ¬ (x.memory.entries.getD i default).Welcomes call.session)
    (still : ∀ k, k < max 1 call.retryLimit →
      (x.meanwhile call k).memory.entries.getD i default = x.memory.entries.getD i default) :
    x.claim call = ⟨max 1 call.retryLimit,
      .error (.raceUnresolved call.name (max 1 call.retryLimit)),
      x.meanwhile call (max 1 call.retryLimit - 1)⟩ := by
  refine claim_of_stale accepted fun k tried => ?_
  have found := (founded.meanwhile call k).finds (still k tried) live
  rw [named] at found
  rw [answer_present (alive k) found, if_pos]
  by_contra fresh
  refine leftOver ?_
  rw [← still k tried]
  exact Queue.isStale_eq_false_iff.mp (Bool.eq_false_of_not_eq_true fresh)

/-- A claim under a name that an entry can hold, for as many consumers as fit. If there is no queue
of that name, its first look lays one out, unless a buffer of it could hold no record or every place
is taken; and however many join it before a producer does, there is one queue with a reference for
each of them and the slots that the first one asked for. If there is such a queue, the first look
joins it exactly if it is there for the session; a queue that is not and stays as it is is looked at
as often as the settings say, at least once. With nobody else at work, this is what the registry's
own loop comes to. -/
theorem claim_outcome (c : Config) (creator : ProcessId) (moves : List Move) (call : ClaimCall)
    (short : call.name.utf8ByteSize ≤ 63) (plain : '\x00' ∉ call.name.toList)
    (positive : 1 ≤ call.consumers) (few : call.consumers ≤ c.maxConsumers)
    (alive : ∀ k, (call.live k).check = .ok ()) :
    let x := (start c creator).run moves
    let entry (y : Commons) (i : Nat) : Entry := y.memory.entries.getD i default
    let room := ringLength c.queueSize call.consumers
    let tries := max 1 call.retryLimit
    let out := x.claim call
    ((∀ k, call.live k = call.live 0) → (∀ k, call.amid k = []) →
        x.memory.acquire x.geometry (call.live 0) call.retryLimit call.session call.name
          call.consumers = (out.after.memory, out.result)) ∧
      ((∀ i, (entry x i).live = true → (entry x i).name ≠ call.name) →
        room ≤ LengthWord.size ∧
            out = ⟨1, .error (.segmentTooSmall c.queueSize call.consumers), x⟩ ∨
          LengthWord.size < room ∧ (∀ i, i < c.maxQueues → (entry x i).live = true) ∧
            out = ⟨1, .error (.registryFull c.maxQueues), x⟩ ∨
          LengthWord.size < room ∧ out.looks = 1 ∧ out.result = .ok () ∧
            ∃ i, i < c.maxQueues ∧ (entry x i).live = false ∧
              x.memory.LaysOut out.after.memory i call.name call.consumers ∧
              ∀ later, Along (fun y move => move.asks y.geometry call.name = true ∨
                  entry (y.perform move) i = entry y i) out.after later →
                let z := out.after.run later
                (∀ j, (entry z j).live = true ∧ (entry z j).name = call.name ↔ j = i) ∧
                  (entry z i).references.toNat =
                    (1 + later.countP (Move.asks x.geometry call.name)) % Word.values32 ∧
                  (entry z i).slots.size = call.consumers ∧
                  z.memory.producerOf i = ⟨0, Slot.unassigned⟩) ∧
      ∀ i, (entry x i).live = true → (entry x i).name = call.name →
        ((entry x i).Welcomes call.session →
          out = ⟨1, .ok (), { x with
            memory := x.memory.refer i, claims := (call.session, call.name) :: x.claims }⟩) ∧
          (¬ (entry x i).Welcomes call.session →
            (∀ k, k < tries → entry (x.meanwhile call k) i = entry x i) →
              out = ⟨tries, .error (.raceUnresolved call.name tries),
                x.meanwhile call (tries - 1)⟩) := by
  intro x entry room tries out
  have founded : x.Founded := (Founded.start c creator).run moves
  have sizes : x.geometry = ⟨c.maxQueues, c.maxConsumers, c.queueSize⟩ := run_geometry ..
  have valid : isQueueName call.name = true := by
    simp only [isQueueName, Bool.and_eq_true, decide_eq_true_iff, Bool.not_eq_true',
      List.contains_eq_mem, decide_eq_false_iff_not]
    exact ⟨short, plain⟩
  have accepted : Segment.claimFault? x.geometry call.name call.consumers = none := by
    rw [Segment.claimFault?_eq_none, sizes]
    exact ⟨valid, Nat.one_le_iff_ne_zero.mp positive, few⟩
  refine ⟨claim_alone x call, ?_, ?_⟩
  · intro nowhere
    have absent : x.memory.find? x.geometry.maxQueues call.name = none := by
      by_contra there
      obtain ⟨i, found⟩ := Option.ne_none_iff_exists'.mp there
      obtain ⟨live, named⟩ := Title.isNamed_iff.mp (Segment.find?_some found).2
      exact nowhere i live named
    have queues : x.geometry.maxQueues = c.maxQueues := congrArg Geometry.maxQueues sizes
    have bytes : x.geometry.queueSize = c.queueSize := congrArg Geometry.queueSize sizes
    have ends := claim_absent founded accepted (alive 0) absent
    rw [queues, bytes] at ends
    rcases ends with small | full | ⟨roomy, i, inside, vacant, laid, made⟩
    · exact .inl small
    · exact .inr (.inl full)
    · rw [show out = _ from made, ← x.perform_geometry (call.look 0)]
      exact .inr (.inr ⟨roomy, rfl, rfl, i, inside, vacant, laid,
        crowd_of_laysOut (founded.perform (call.look 0)) laid⟩)
  · intro i live named
    exact ⟨claim_joins accepted (alive 0) (named ▸ founded.finds rfl live),
      claim_waits founded accepted alive live named⟩

/-- A call for a queue whose producer has no slot for its node, while another queue is claimed time
and again. -/
def inVain : ClaimCall where
  session := ⟨102, 2⟩
  name := "rows"
  consumers := 1
  retryLimit := 3
  live := fun _ => undisturbed
  amid := fun _ => [.acquire undisturbed ⟨100, 0⟩ "next" 1]

theorem claim_outcome_inVain :
    let x := (start narrow 1).run [.acquire undisturbed ⟨100, 0⟩ "rows" 1,
      .bind undisturbed ⟨100, 0⟩ "rows" [1] [0, 1] 64]
    (x.claim inVain).looks = 3 ∧ (x.claim inVain).result = .error (.raceUnresolved "rows" 3) ∧
      ((x.claim inVain).after.memory.entries.getD 1 default).references = 2 := by
  intro x
  have named : (x.memory.entries.getD 0 default).live = true ∧
      (x.memory.entries.getD 0 default).name = "rows" := by decide +kernel
  have stale : (x.memory.queue (x.memory.handleAt 0)).isStale ⟨102, 2⟩ = true := by decide +kernel
  have still : ∀ k, k < 3 → (x.meanwhile inVain k).memory.entries.getD 0 default =
      x.memory.entries.getD 0 default := by decide +kernel
  have out := ((claim_outcome narrow 1 _ inVain (by decide) (by decide) (by decide) (by decide)
    fun _ => rfl).2.2 0 named.1 named.2).2 ?_ still
  · rw [out]
    exact ⟨rfl, rfl, by decide +kernel⟩
  · intro welcome
    have fresh := Queue.isStale_eq_false_iff (q := x.memory.queue (x.memory.handleAt 0)).mpr welcome
    exact Bool.false_ne_true (fresh.symm.trans stale)

end Commons

end RecordExchange
