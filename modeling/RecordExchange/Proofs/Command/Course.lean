import RecordExchange.Proofs.Command.Script
import RecordExchange.Proofs.Commons.Unbinding

set_option autoImplicit false

/-!
What a command leaves behind.

A course is a way through the script of a command among all parties: the operations of the command
are moves of the commons, and between any two of them, and while one of them waits, the others move
as they like. The reference for a bound producer goes with the handle, which no script keeps. The
claim goes with a release alone, and the commands do not come to theirs when an operation fails.
-/

namespace RecordExchange

open Command (Stake Role Script Outcome)

namespace Command

/-- The command came to an end of its own: it succeeded, or has something to say for itself. -/
def Outcome.isConcluded (outcome : Outcome) : Bool :=
  match outcome.failure with
  | none => true
  | some (.sentence _) => true
  | some _ => false

structure Ending where
  stake : Stake
  role : Role
  outcome : Outcome

/-- Wherever a script ends, this is true. -/
def Script.Ends (P : Stake → Role → Outcome → Prop) {stake : Stake} {role : Role} :
    Script stake role → Prop
  | .done _ outcome => P stake role outcome
  | .acquire _ refused granted => (∀ cause, (refused cause).Ends P) ∧ granted.Ends P
  | .bind _ _ refused producing reading =>
    (∀ cause, (refused cause).Ends P) ∧ (∀ targets, (producing targets).Ends P) ∧ reading.Ends P
  | .write _ _ next => ∀ result, (next result).Ends P
  | .drain _ next => ∀ result, (next result).Ends P
  | .pause next => next.Ends P
  | .unbind _ next => ∀ result, (next result).Ends P
  | .read next => ∀ result, (next result).Ends P
  | .drop next => next.Ends P
  | .release refused given => (∀ cause, (refused cause).Ends P) ∧ given.Ends P

end Command

def ProducerMove.Unbinds (failed : Bool) : ProducerMove → Prop
  | .call _ => False
  | .unbind flag => flag = failed
  | .close _ => True
  | .wake _ => True
  | .giveUp _ => True

/-- A move that takes and gives no reference in the name of a session: one of others, or one of the
session's own, as what it is bound as number `k`, that only moves records. -/
def Move.Aside (session : Session) (role : Role) (k : Nat) : Move → Prop
  | .acquire _ other _ _ => other ≠ session
  | .bind _ other _ _ _ _ => other ≠ session
  | .release _ other _ => other ≠ session
  | .disconnect .. => True
  | .produce n move => role = .producer → n = k → ∃ c, move = .call c
  | .consume n move => role = .consumer → n = k → move ≠ .drop

/-- A way through a script in the name of `session`, which is bound as number `k`, from `x` on. What
calls bring that only move records is left open. An operation that failed without a trace is no
move. -/
inductive Course (session : Session) (queue : String) : {stake : Stake} → {role : Role} →
    Script stake role → Nat → Commons → List Move → Command.Ending → Prop where
  | done {stake role k x} (free : role.isFree = true) (outcome : Outcome) :
      Course session queue (.done free outcome : Script stake role) k x [] ⟨stake, role, outcome⟩
  | aside {stake role k move moves ending} {script : Script stake role} {x : Commons}
      (aside : move.Aside session role k)
      (rest : Course session queue script k (x.perform move) moves ending) :
      Course session queue script k x (move :: moves) ending
  | refused {consumers refused granted k moves ending live tries cause} {x : Commons}
      (fails : (x.memory.acquire x.geometry live tries session queue consumers).2 = .error cause)
      (rest : Course session queue (refused cause) k x moves ending) :
      Course session queue (.acquire consumers refused granted) k x moves ending
  | granted {consumers refused granted k moves ending live tries} {x : Commons}
      (stands : (x.memory.acquire x.geometry live tries session queue consumers).2 = .ok ())
      (rest : Course session queue granted k (x.perform (.acquire live session queue consumers))
        moves ending) :
      Course session queue (.acquire consumers refused granted) k x
        (.acquire live session queue consumers :: moves) ending
  | unbound {consumers distribution refused producing reading k moves ending live limit cause}
      {x : Commons}
      (fails : (x.memory.bind x.geometry live session queue consumers distribution).2 =
        .error cause)
      (rest : Course session queue (refused cause) k
        (x.perform (.bind live session queue consumers distribution limit)) moves ending) :
      Course session queue (.bind consumers distribution refused producing reading) k x
        (.bind live session queue consumers distribution limit :: moves) ending
  | producing {consumers distribution refused producing reading k moves ending live limit p}
      {x : Commons}
      (binds : (x.memory.bind x.geometry live session queue consumers distribution).2 =
        .ok (.producer p))
      (rest : Course session queue (producing p.targets) x.producers.length
        (x.perform (.bind live session queue consumers distribution limit)) moves ending) :
      Course session queue (.bind consumers distribution refused producing reading) k x
        (.bind live session queue consumers distribution limit :: moves) ending
  | reading {consumers distribution refused producing reading k moves ending live limit c}
      {x : Commons}
      (binds : (x.memory.bind x.geometry live session queue consumers distribution).2 =
        .ok (.consumer c))
      (rest : Course session queue reading x.consumers.length
        (x.perform (.bind live session queue consumers distribution limit)) moves ending) :
      Course session queue (.bind consumers distribution refused producing reading) k x
        (.bind live session queue consumers distribution limit :: moves) ending
  | wrote {slot record next k x moves ending} (result : Except Error Unit)
      (rest : Course session queue (next result) k x moves ending) :
      Course session queue (.write slot record next) k x moves ending
  | drained {timeoutMs next k x moves ending} (result : Except Error Nat)
      (rest : Course session queue (next (some result)) k x moves ending) :
      Course session queue (.drain timeoutMs next) k x moves ending
  | paused {next k x moves ending} (rest : Course session queue next k x moves ending) :
      Course session queue (.pause next) k x moves ending
  | unbinds {failed next k moves ending seat move} {x : Commons}
      (here : x.producers[k]? = some seat) (own : move.Unbinds failed)
      (goesOn : seat.ends x.memory move = none)
      (rest : Course session queue (.unbind failed next) k (x.perform (.produce k move)) moves
        ending) :
      Course session queue (.unbind failed next) k x (.produce k move :: moves) ending
  | ends {failed next k moves ending seat move result} {x : Commons}
      (here : x.producers[k]? = some seat) (own : move.Unbinds failed)
      (ends : seat.ends x.memory move = some (failed, result))
      (rest : Course session queue (next (some result)) k (x.perform (.produce k move)) moves
        ending) :
      Course session queue (.unbind failed next) k x (.produce k move :: moves) ending
  | read {next k x moves ending} (result : Except Error ReadOutcome)
      (rest : Course session queue (next (some result)) k x moves ending) :
      Course session queue (.read next) k x moves ending
  | drop {stake k moves ending} {next : Script stake .gone} {x : Commons}
      (rest : Course session queue next k (x.perform (.consume k .drop)) moves ending) :
      Course session queue (.drop next) k x (.consume k .drop :: moves) ending
  | kept {role k moves ending live cause} {refused : Error → Script .kept role}
      {given : Script .returned role} {x : Commons}
      (fails : (x.memory.release x.geometry live session queue).2 = .error cause)
      (rest : Course session queue (refused cause) k x moves ending) :
      Course session queue (.release refused given) k x moves ending
  | given {role k moves ending live} {refused : Error → Script .kept role}
      {given : Script .returned role} {x : Commons}
      (gives : (x.memory.release x.geometry live session queue).2 = .ok ())
      (rest : Course session queue given k (x.perform (.release live session queue)) moves
        ending) :
      Course session queue (.release refused given) k x (.release live session queue :: moves)
        ending

/-- A move that others make, as far as claims and taking up roles go. -/
def Move.ByOthers (session : Session) : Move → Prop
  | .acquire _ other _ _ => other ≠ session
  | .bind _ other _ _ _ _ => other ≠ session
  | .release _ other _ => other ≠ session
  | .disconnect .. => True
  | .produce .. => True
  | .consume .. => True

theorem Move.Aside.byOthers {session : Session} {role : Role} {k : Nat} {move : Move}
    (aside : move.Aside session role k) : move.ByOthers session := by
  cases move with
  | acquire live other name consumers => exact aside
  | bind live other name consumerNodes distribution limit => exact aside
  | release live other name => exact aside
  | disconnect live other name => trivial
  | produce n move => trivial
  | consume n move => trivial

namespace Ledger

variable {l after : Ledger} {move : Move} {session : Session}

/-- From `l` to `after` a session took no claim and gave none up, and was bound as no producer. -/
structure Passes (l after : Ledger) (session : Session) : Prop where
  claims : ∀ name, after.claims.count (session, name) = l.claims.count (session, name)
  grows : l.producers.length ≤ after.producers.length
  producers : ∀ (n : Nat) (held : Holding), after.producers[n]? = some held → held.isOpen = true →
    held.session = session → l.producers[n]? = some held

theorem Step.passes (step : Step l move after) (others : move.ByOthers session) :
    l.Passes after session := by
  have still : l.Passes l session := ⟨fun _ => rfl, Nat.le_refl _, fun _ _ here _ _ => here⟩
  have foreign {other : Session} (differs : other ≠ session) (name own : String) :
      (other, name) ≠ (session, own) := fun same => differs (congrArg Prod.fst same)
  cases step with
  | quiet => exact still
  | create =>
    exact ⟨fun own => List.count_cons_of_ne (foreign others _ own), still.grows, still.producers⟩
  | join =>
    exact ⟨fun own => List.count_cons_of_ne (foreign others _ own), still.grows, still.producers⟩
  | @takeProducer _ other name _ _ _ i =>
    refine ⟨still.claims, ?_, fun n held here _ own => ?_⟩
    · simp only [List.length_append, Nat.le_add_right]
    · rw [List.getElem?_append] at here
      split at here
      · exact here
      · rw [List.getElem?_singleton] at here
        split at here
        · rw [← Option.some_inj.mp here] at own
          exact absurd own others
        · cases here
  | takeConsumer => exact ⟨still.claims, still.grows, still.producers⟩
  | give =>
    exact ⟨fun own => List.count_erase_of_ne (foreign others _ own).symm, still.grows,
      still.producers⟩
  | giveNothing =>
    exact ⟨fun own => List.count_erase_of_ne (foreign others _ own).symm, still.grows,
      still.producers⟩
  | @settle k _ held here =>
    refine ⟨still.claims, ?_, fun n own found opened _ => ?_⟩
    · simp only [List.length_set, Nat.le_refl]
    · rw [List.getElem?_set] at found
      split at found
      · split at found
        · rw [← Option.some_inj.mp found] at opened
          cases opened
        · cases found
      · exact found
  | leave => exact ⟨still.claims, still.grows, still.producers⟩

/-- What is outstanding for the queue `name` in `after`, apart from what a session took since `l`.
-/
def elsewhere (l after : Ledger) (session : Session) (name : String) : Nat :=
  l.claims.count (session, name) +
      after.claims.countP (fun claim => claim.2 == name && claim.1 != session) +
    ((after.producers.take l.producers.length).countP fun held =>
        held.isOpen && held.handle.name == name) +
    (after.producers.drop l.producers.length).countP fun held =>
      held.isOpen && held.handle.name == name && held.session != session

/-- What a command that began at `l` holds at `after`: a claim on `queue` as its stake says, and as
a producer the reference that number `k` holds. -/
structure Stands (l after : Ledger) (session : Session) (queue : String) (stake : Stake)
    (role : Role) (k : Nat) : Prop where
  claims : ∀ name, after.claims.count (session, name) =
    l.claims.count (session, name) + if name = queue ∧ stake.isOwed = true then 1 else 0
  grows : l.producers.length ≤ after.producers.length
  producers : ∀ (n : Nat) (held : Holding), l.producers.length ≤ n →
    after.producers[n]? = some held → held.isOpen = true → held.session = session →
      role = .producer ∧ n = k

variable {queue : String} {stake : Stake} {role : Role} {k : Nat} {next : Ledger}

theorem Stands.start (l : Ledger) (session : Session) (queue : String) (k : Nat) :
    l.Stands l session queue .none .unbound k := by
  refine ⟨fun name => ?_, Nat.le_refl _, fun n held since here => ?_⟩
  · simp only [Stake.isOwed, Bool.false_eq_true, and_false, ↓reduceIte, Nat.add_zero]
  · rw [List.getElem?_eq_none since] at here
    cases here

theorem Stands.passes (stands : l.Stands after session queue stake role k)
    (passes : after.Passes next session) : l.Stands next session queue stake role k :=
  ⟨fun name => (passes.claims name).trans (stands.claims name),
    Nat.le_trans stands.grows passes.grows, fun n held since here opened own =>
      stands.producers n held since (passes.producers n held here opened own) opened own⟩

theorem Stands.recount (stands : l.Stands after session queue stake role k)
    (claims : next.claims = after.claims) (producers : next.producers = after.producers) :
    l.Stands next session queue stake role k :=
  ⟨claims ▸ stands.claims, producers ▸ stands.grows, producers ▸ stands.producers⟩

/-- A claim that could not be given up stands as before. -/
theorem Stands.keep (stands : l.Stands after session queue .held role k) :
    l.Stands after session queue .kept role k :=
  ⟨stands.claims, stands.grows, stands.producers⟩

/-- Who is no producer may become anything. -/
theorem Stands.become (stands : l.Stands after session queue stake role k)
    (other : role ≠ .producer) (role' : Role) (n : Nat) :
    l.Stands after session queue stake role' n :=
  ⟨stands.claims, stands.grows, fun i held since here opened own =>
    absurd (stands.producers i held since here opened own).1 other⟩

theorem Stands.claim (stands : l.Stands after session queue .none role k)
    (claims : next.claims = (session, queue) :: after.claims)
    (producers : next.producers = after.producers) :
    l.Stands next session queue .held role k := by
  refine ⟨fun name => ?_, producers ▸ stands.grows, producers ▸ stands.producers⟩
  have before := stands.claims name
  simp only [Stake.isOwed, Bool.false_eq_true, and_false, ↓reduceIte, Nat.add_zero] at before
  simp only [claims, Stake.isOwed, and_true, ← before]
  split
  · rename_i same
    rw [same, List.count_cons_self]
  · rename_i other
    rw [List.count_cons_of_ne fun same => other (congrArg Prod.snd same).symm, Nat.add_zero]

theorem Stands.giveUp (stands : l.Stands after session queue .held role k)
    (claims : next.claims = after.claims.erase (session, queue))
    (producers : next.producers = after.producers) :
    l.Stands next session queue .returned role k := by
  refine ⟨fun name => ?_, producers ▸ stands.grows, producers ▸ stands.producers⟩
  have before := stands.claims name
  simp only [Stake.isOwed, and_true] at before
  simp only [claims, Stake.isOwed, Bool.false_eq_true, and_false, ↓reduceIte, Nat.add_zero]
  split at before
  · rename_i same
    rw [same] at before ⊢
    rw [List.count_erase_self, before]
    rfl
  · rename_i other
    rw [List.count_erase_of_ne fun same => other (congrArg Prod.snd same)]
    exact before

theorem Stands.takeUp (stands : l.Stands after session queue stake role k)
    (other : role ≠ .producer) (held : Holding) (claims : next.claims = after.claims)
    (producers : next.producers = after.producers ++ [held]) :
    l.Stands next session queue stake .producer after.producers.length := by
  refine ⟨fun name => claims ▸ stands.claims name, ?_, ?_⟩
  · rw [producers, List.length_append]
    exact Nat.le_add_right_of_le stands.grows
  · intro n own since here opened same
    refine ⟨rfl, ?_⟩
    by_contra differs
    have before : after.producers[n]? = some own := by
      rw [producers, List.getElem?_append] at here
      split at here
      · exact here
      · rw [List.getElem?_eq_none (by simp only [List.length_singleton]; omega)] at here
        cases here
    exact other (stands.producers n own since before opened same).1

theorem Stands.letGo (stands : l.Stands after session queue stake .producer k)
    (closed : ∀ held : Holding, after.producers[k]? = some held → held.isOpen = false) :
    l.Stands after session queue stake .gone k := by
  refine ⟨stands.claims, stands.grows, fun n held since here opened own => ?_⟩
  rw [(stands.producers n held since here opened own).2] at here
  rw [closed held here] at opened
  cases opened

/-- The claims on a queue are those of a session and those of others. -/
theorem countP_claims (l : Ledger) (session : Session) (name : String) :
    l.claims.countP (fun claim => claim.2 == name) =
      l.claims.count (session, name) +
        l.claims.countP fun claim => claim.2 == name && claim.1 != session := by
  rw [List.countP_eq_countP_filter_add _ _ fun claim => claim.1 == session, List.countP_filter,
    List.countP_filter, List.count_eq_countP]
  congr 1
  refine List.countP_congr fun claim _ => ?_
  rw [Bool.and_eq_true, beq_iff_eq, beq_iff_eq, beq_iff_eq, Prod.ext_iff, and_comm]

theorem Stands.outstanding (stands : l.Stands after session queue stake role k)
    (free : role.isFree = true) (name : String) :
    after.outstanding name = l.elsewhere after session name +
      if name = queue ∧ stake.isOwed = true then 1 else 0 := by
  have since : (after.producers.drop l.producers.length).countP
        (fun held => held.isOpen && held.handle.name == name) =
      (after.producers.drop l.producers.length).countP
        fun held => held.isOpen && held.handle.name == name && held.session != session := by
    refine List.countP_congr fun held member => ?_
    obtain ⟨n, here⟩ := List.mem_iff_getElem?.mp member
    rw [List.getElem?_drop] at here
    simp only [Bool.and_eq_true, bne_iff_ne, ne_eq]
    refine ⟨fun ⟨opened, named⟩ => ⟨⟨opened, named⟩, fun own => ?_⟩, And.left⟩
    -- a producer of the session's own that is still open would have it bound as one
    rw [(stands.producers _ held (Nat.le_add_right ..) here opened own).1] at free
    cases free
  have producers : after.producers.countP (fun held => held.isOpen && held.handle.name == name) =
      ((after.producers.take l.producers.length).countP fun held =>
          held.isOpen && held.handle.name == name) +
        (after.producers.drop l.producers.length).countP fun held =>
          held.isOpen && held.handle.name == name := by
    rw [← List.countP_append, List.take_append_drop]
  rw [Ledger.outstanding, elsewhere, after.countP_claims session, producers, since,
    stands.claims]
  omega

end Ledger

namespace Commons

variable {x : Commons} {live : Liveness} {session : Session} {name : String}

/-! What the operations of a command are to the claims, the seats and the memory. -/

theorem acquire_granted {tries consumers : Nat}
    (stands : (x.memory.acquire x.geometry live tries session name consumers).2 = .ok ()) :
    (x.acquire live session name consumers).claims = (session, name) :: x.claims ∧
      (x.acquire live session name consumers).producers = x.producers ∧
      (x.acquire live session name consumers).consumers = x.consumers ∧
      (x.acquire live session name consumers).memory =
        (x.memory.acquire x.geometry live tries session name consumers).1 := by
  cases fault : Segment.claimFault? x.geometry name consumers with
  | some cause =>
    rw [Segment.acquire, fault] at stands
    cases stands
  | none =>
    rw [Segment.acquire_eq fault] at stands ⊢
    simp only [acquire, fault]
    generalize x.memory.tryAcquire x.geometry live session name consumers = looked at stands ⊢
    rcases looked with ⟨t, cause | claim⟩
    · cases stands
    · cases claim with
      | held => exact ⟨rfl, rfl, rfl, rfl⟩
      | stale => cases stands

theorem bind_others (x : Commons) (live : Liveness) (session : Session) (name : String)
    (consumerNodes distribution : List NodeId) (limit : Nat) :
    (x.bind live session name consumerNodes distribution limit).claims = x.claims ∧
      (x.bind live session name consumerNodes distribution limit).memory =
        (x.memory.bind x.geometry live session name consumerNodes distribution).1 := by
  rw [bind]
  split
  · rename_i bound
    exact ⟨rfl, (congrArg Prod.fst bound).symm⟩
  · rename_i bound
    exact ⟨rfl, (congrArg Prod.fst bound).symm⟩
  · rename_i bound
    exact ⟨rfl, (congrArg Prod.fst bound).symm⟩

section Bind

variable {consumerNodes distribution : List NodeId}

theorem bind_producing {p : Producer}
    (binds : (x.memory.bind x.geometry live session name consumerNodes distribution).2 =
      .ok (.producer p)) (limit : Nat) :
    (x.bind live session name consumerNodes distribution limit).producers =
        x.producers ++ [⟨p, limit, .bound, x.turn p.handle.entry⟩] ∧
      (x.bind live session name consumerNodes distribution limit).consumers = x.consumers := by
  rw [bind]
  generalize x.memory.bind x.geometry live session name consumerNodes distribution = bound
    at binds ⊢
  obtain ⟨t, result⟩ := bound
  cases binds
  exact ⟨rfl, rfl⟩

theorem bind_reading {c : Consumer}
    (binds : (x.memory.bind x.geometry live session name consumerNodes distribution).2 =
      .ok (.consumer c)) (limit : Nat) :
    (x.bind live session name consumerNodes distribution limit).producers = x.producers ∧
      (x.bind live session name consumerNodes distribution limit).consumers =
        x.consumers ++ [⟨c, none, true, x.turn c.handle.entry⟩] := by
  rw [bind]
  generalize x.memory.bind x.geometry live session name consumerNodes distribution = bound
    at binds ⊢
  obtain ⟨t, result⟩ := bound
  cases binds
  exact ⟨rfl, rfl⟩

theorem bind_failing {cause : Error}
    (fails : (x.memory.bind x.geometry live session name consumerNodes distribution).2 =
      .error cause) (limit : Nat) :
    (x.bind live session name consumerNodes distribution limit).producers = x.producers ∧
      (x.bind live session name consumerNodes distribution limit).consumers = x.consumers := by
  rw [bind]
  generalize x.memory.bind x.geometry live session name consumerNodes distribution = bound
    at fails ⊢
  obtain ⟨t, result⟩ := bound
  cases fails
  exact ⟨rfl, rfl⟩

end Bind

theorem produce_closes {k : Nat} {seat : ProducerSeat} {move : ProducerMove}
    (here : x.producers[k]? = some seat) (ended : (seat.ends x.memory move).isSome = true)
    (held : Holding) (found : (x.produce k move).ledger.producers[k]? = some held) :
    held.isOpen = false := by
  have inside := (List.getElem?_eq_some_iff.mp here).1
  have after : (x.produce k move).producers[k]? = some (seat.step x.memory move).1 := by
    simp only [produce, here, List.getElem?_set_self inside]
  have same : (x.produce k move).ledger.producers[k]? =
      (x.produce k move).producers[k]?.map ProducerSeat.holding := List.getElem?_map
  rw [same, after] at found
  rw [← Option.some_inj.mp found]
  exact (seat.step_isOpen x.memory move).mpr (.inr ended)

theorem release_given (gives : (x.memory.release x.geometry live session name).2 = .ok ()) :
    (x.release live session name).claims = x.claims.erase (session, name) ∧
      (x.release live session name).producers = x.producers ∧
      (x.release live session name).consumers = x.consumers ∧
      (x.release live session name).memory =
        (x.memory.release x.geometry live session name).1 := by
  rw [release]
  generalize x.memory.release x.geometry live session name = released at gives ⊢
  obtain ⟨t, result⟩ := released
  cases result with
  | error cause => cases gives
  | ok _ => exact ⟨rfl, rfl, rfl, rfl⟩

end Commons

namespace Course

open Commons

variable {session : Session} {queue : String} {stake : Stake} {role : Role} {k : Nat} {x : Commons}
  {script : Script stake role} {moves : List Move} {ending : Command.Ending}

theorem endsIn (course : Course session queue script k x moves ending)
    {P : Stake → Role → Outcome → Prop} (all : script.Ends P) :
    P ending.stake ending.role ending.outcome := by
  induction course with
  | done => exact all
  | aside _ _ ih => exact ih all
  | refused _ _ ih => exact ih (all.1 _)
  | granted _ _ ih => exact ih all.2
  | unbound _ _ ih => exact ih (all.1 _)
  | producing _ _ ih => exact ih (all.2.1 _)
  | reading _ _ ih => exact ih all.2.2
  | wrote result _ ih => exact ih (all result)
  | drained result _ ih => exact ih (all (some result))
  | paused _ ih => exact ih all
  | unbinds _ _ _ _ ih => exact ih all
  | ends _ _ _ _ ih => exact ih (all _)
  | read result _ ih => exact ih (all (some result))
  | drop _ ih => exact ih all
  | kept _ _ ih => exact ih (all.1 _)
  | given _ _ ih => exact ih all.2

/-- A command holds all along its course what it should, and at the end no handle. -/
theorem stands (course : Course session queue script k x moves ending) {l : Ledger}
    (founded : x.Founded) (stands : l.Stands x.ledger session queue stake role k) :
    ending.role.isFree = true ∧
      ∃ n, l.Stands (x.run moves).ledger session queue ending.stake ending.role n := by
  have passes {x : Commons} (founded : x.Founded) (move : Move) (others : move.ByOthers session) :
      x.ledger.Passes (x.perform move).ledger session :=
    (perform_step founded move).1.passes others
  have held {x y : Commons} (same : y.producers = x.producers) :
      y.ledger.producers = x.ledger.producers := congrArg (·.map ProducerSeat.holding) same
  induction course with
  | done free outcome => exact ⟨free, _, stands⟩
  | aside aside _ ih =>
    exact ih (founded.perform _) (stands.passes (passes founded _ aside.byOthers))
  | refused _ _ ih => exact ih founded stands
  | granted stood _ ih =>
    obtain ⟨claims, producers, -, -⟩ := acquire_granted stood
    exact ih (founded.perform _) (stands.claim claims (held producers))
  | @unbound _ _ _ _ _ _ _ _ _ limit _ _ fails _ ih =>
    exact ih (founded.perform _)
      (stands.recount (bind_others ..).1 (held (bind_failing fails limit).1))
  | @producing _ _ _ _ _ _ _ _ _ limit _ _ binds _ ih =>
    have added := (bind_producing binds limit).1
    refine ih (founded.perform _) ?_
    rw [← List.length_map ProducerSeat.holding]
    have listed := (congrArg (·.map ProducerSeat.holding) added).trans List.map_append
    exact stands.takeUp Role.noConfusion _ (bind_others ..).1 listed
  | @reading _ _ _ _ _ _ _ _ _ limit _ _ binds _ ih =>
    have bound := stands.recount (bind_others ..).1 (held (bind_reading binds limit).1)
    exact ih (founded.perform _) (bound.become Role.noConfusion ..)
  | wrote result _ ih => exact ih founded stands
  | drained result _ ih => exact ih founded stands
  | paused _ ih => exact ih founded stands
  | @unbinds _ _ k _ _ _ move _ _ _ _ _ ih =>
    exact ih (founded.perform _) (stands.passes (passes founded (.produce k move) trivial))
  | @ends _ _ k _ _ seat move _ x here own ended _ ih =>
    refine ih (founded.perform _)
      (.letGo (stands.passes (passes founded (.produce k move) trivial)) ?_)
    exact produce_closes here (ended ▸ rfl)
  | read result _ ih => exact ih founded stands
  | @drop _ k _ _ _ _ _ ih =>
    have passed := stands.passes (passes founded (.consume k .drop) trivial)
    exact ih (founded.perform _) (passed.become Role.noConfusion ..)
  | kept _ _ ih => exact ih founded stands.keep
  | given gives _ ih =>
    obtain ⟨claims, producers, -, -⟩ := release_given gives
    exact ih (founded.perform _) (stands.giveUp claims (held producers))

end Course

namespace Command.Script

/-- A command that was bound and let go still has its claim exactly if it came to no end of its
own. -/
def Abandons (stake : Stake) (role : Role) (outcome : Outcome) : Prop :=
  role = .gone ∧ (stake.isOwed = true ↔ outcome.isConcluded = false)

theorem Ends.mono {P Q : Stake → Role → Outcome → Prop} {stake : Stake} {role : Role}
    {script : Script stake role} (all : script.Ends P)
    (more : ∀ stake role outcome, P stake role outcome → Q stake role outcome) :
    script.Ends Q := by
  induction script with
  | done _ outcome => exact more _ _ _ all
  | acquire _ _ _ refused granted => exact ⟨fun cause => refused cause (all.1 cause), granted all.2⟩
  | bind _ _ _ _ _ refused producing reading =>
    exact ⟨fun cause => refused cause (all.1 cause),
      fun targets => producing targets (all.2.1 targets), reading all.2.2⟩
  | write _ _ _ next => exact fun result => next result (all result)
  | drain _ _ next => exact fun result => next result (all result)
  | pause _ next => exact next all
  | unbind _ _ next => exact fun result => next result (all result)
  | read _ next => exact fun result => next result (all result)
  | drop _ next => exact next all
  | release _ _ refused given => exact ⟨fun cause => refused cause (all.1 cause), given all.2⟩

theorem quit_ends {failure : Failure}
    (broken : (Outcome.failed failure []).isConcluded = false) : (quit failure).Ends Abandons :=
  fun _ => ⟨rfl, iff_of_true rfl broken⟩

theorem conclude_ends {outcome : Outcome} (concluded : outcome.isConcluded = true) :
    (conclude rfl outcome : Script .held .gone).Ends Abandons :=
  ⟨fun _ => ⟨rfl, iff_of_true rfl rfl⟩, rfl, by rw [concluded]; decide⟩

theorem close_ends (failed : Bool) {outcome : Outcome} (concluded : outcome.isConcluded = true) :
    (close failed outcome).Ends Abandons
  | none => ⟨rfl, iff_of_true rfl rfl⟩
  | some (.error _) => ⟨rfl, iff_of_true rfl rfl⟩
  | some (.ok _) => conclude_ends concluded

theorem drainAll_ends (timeoutMs written rounds : Nat) :
    (drainAll timeoutMs written rounds).Ends Abandons := by
  induction rounds with
  | zero => exact quit_ends rfl
  | succ rounds ih =>
    intro result
    match result with
    | none => exact quit_ends rfl
    | some (.error cause) => exact quit_ends rfl
    | some (.ok 0) => exact close_ends false rfl
    | some (.ok (pending + 1)) => exact ih

theorem writeLines_ends (targets : List Nat) (timeoutMs written : Nat)
    (lines : List (List UInt8)) :
    (writeLines targets timeoutMs written lines).Ends Abandons := by
  induction lines generalizing written with
  | nil => exact drainAll_ends timeoutMs written Site.patience
  | cons line rest ih =>
    rw [writeLines]
    split
    · exact quit_ends rfl
    · intro result
      cases result with
      | error cause => exact quit_ends rfl
      | ok _ => exact ih (written + 1)

theorem readRecords_ends (reads : Nat) (output : List UInt8) (records : Nat) :
    (readRecords reads output records).Ends Abandons := by
  induction reads generalizing output records with
  | zero => exact ⟨rfl, iff_of_true rfl rfl⟩
  | succ reads ih =>
    intro result
    match result with
    | none => exact ⟨rfl, iff_of_true rfl rfl⟩
    | some (.error cause) => exact ⟨rfl, iff_of_true rfl rfl⟩
    | some (.ok (.record payload)) => exact ih ..
    | some (.ok .eof) => exact conclude_ends rfl
    | some (.ok .wouldBlock) => exact ih ..

/-- A claim that a sending command made stays exactly if the command comes to no end of its own. -/
theorem produce_ends (session : Session) (queue : String) (consumers : List NodeId)
    (drainTimeoutMs : Nat) (input : List UInt8) :
    (produce session queue consumers drainTimeoutMs input).Ends fun stake _ outcome =>
      stake ≠ .none → (stake.isOwed = true ↔ outcome.isConcluded = false) := by
  refine ⟨fun _ made => absurd rfl made, fun _ _ => iff_of_true rfl rfl, fun targets => ?_,
    fun _ _ => iff_of_true rfl rfl, fun _ => iff_of_false nofun nofun⟩
  have all : Ends Abandons
      (if targets.isEmpty then
        close false (.failed (.sentence s!"no consumer slot in shared queue {queue}") [])
      else writeLines targets drainTimeoutMs 0 (splitLines input)) := by
    split
    · exact close_ends false rfl
    · exact writeLines_ends ..
  exact all.mono fun _ _ _ abandons _ => abandons.2

/-- A claim that a reading command made stays exactly if giving it up failed, or if the command was
bound and comes to no end of its own. -/
theorem consume_ends (queue : String) (consumers : Nat) :
    (consume queue consumers).Ends fun stake role outcome =>
      (stake.isOwed = true ↔
        stake = .kept ∨ role = .gone ∧ outcome.isConcluded = false) := by
  have bound {stake : Stake} {role : Role} {outcome : Outcome}
      (abandons : Abandons stake role outcome) :
      stake.isOwed = true ↔ stake = .kept ∨ role = .gone ∧ outcome.isConcluded = false := by
    obtain ⟨rfl, owes⟩ := abandons
    refine ⟨fun owed => .inr ⟨rfl, owes.mp owed⟩, ?_⟩
    rintro (rfl | ⟨-, broken⟩)
    · rfl
    · exact owes.mpr broken
  have unbound {stake : Stake} {outcome : Outcome}
      (only : stake.isOwed = true ↔ stake = .kept) :
      stake.isOwed = true ↔
        stake = .kept ∨ Role.unbound = .gone ∧ outcome.isConcluded = false := by
    simp only [only, reduceCtorEq, false_and, or_false]
  refine ⟨fun _ => unbound (by decide), ⟨fun _ => ⟨fun _ => unbound (by decide),
    unbound (by decide)⟩, fun _ => ?_, ?_⟩⟩
  · exact (close_ends true rfl).mono fun _ _ _ => bound
  · exact (readRecords_ends ..).mono fun _ _ _ => bound

end Command.Script

namespace Commons

variable {x y : Commons} {session : Session} {queue : String} {stake : Stake} {role : Role} {k : Nat}

/-- Every queue has the references that others have outstanding for it, and one more if it is
`queue` and one is owed. It is there exactly while it has one. -/
structure Accounts (y : Commons) (others : String → Nat) (queue : String) (owed : Bool) :
    Prop where
  counted : ∀ i, (y.memory.entries.getD i default).live = true →
    (y.memory.entries.getD i default).references.toNat =
      others (y.memory.entries.getD i default).name +
        if (y.memory.entries.getD i default).name = queue ∧ owed = true then 1 else 0
  there : ∀ name, (∃ i, (y.memory.entries.getD i default).live = true ∧
      (y.memory.entries.getD i default).name = name) ↔
    0 < others name + if name = queue ∧ owed = true then 1 else 0

theorem accounts (balanced : y.ledger.withoutConsumers.Balanced)
    (stands : x.ledger.Stands y.ledger session queue stake role k) (free : role.isFree = true) :
    y.Accounts (x.ledger.elsewhere y.ledger session) queue stake.isOwed := by
  refine ⟨fun i live => ?_, fun name => ?_⟩
  · rw [← stands.outstanding free]
    exact balanced.counted i live
  · rw [← stands.outstanding free]
    constructor
    · rintro ⟨i, live, named⟩
      rw [← named]
      exact balanced.claimed i live
    · intro some
      obtain ⟨i, named⟩ := balanced.present name some
      exact ⟨i, Title.isNamed_iff.mp named⟩

end Commons

end RecordExchange
