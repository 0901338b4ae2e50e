import RecordExchange.Proofs.Commons.ProducerLatch

set_option autoImplicit false

/-!
Whose names the latches of a queue carry.

The latch of a slot names its reader from the time it attaches to the time the slot is done. Whoever
ends a slot takes the name away, but for two visits that close a slot beside its reader; then the
name stays until the block serves another queue. The producer's latch names the producer as long as
it is bound.
-/

namespace RecordExchange

def ConsumerSeat.charge (seat : ConsumerSeat) : Handle × Session × Nat × Nat :=
  (seat.consumer.handle, seat.consumer.session, seat.consumer.index, seat.turn)

theorem ConsumerSeat.step_charge (seat : ConsumerSeat) (q : Queue) (move : ConsumerMove) :
    (seat.step q move).1.charge = seat.charge := by
  have post := seat.step_post q move
  simp only [ConsumerSeat.post, Prod.mk.injEq] at post
  obtain ⟨handle, turn, index⟩ := post
  have session : (seat.step q move).1.consumer.session = seat.consumer.session := by
    rcases (seat.step_cases q move).2 with same | ⟨-, closed⟩
    · exact congrArg Holding.session same
    · exact congrArg Holding.session closed
  exact Prod.ext handle (Prod.ext session (Prod.ext index turn))

/-- A visit closes a slot of the queue that was not given to the visitor: no node was, or the
visitor reports its reader's end. -/
def Queue.Shuts (q : Queue) (i : Nat) : Move → Prop
  | .release _ session _ => q.ClosesSpare session i
  | .disconnect _ session _ =>
    q.entry.producerPid ≠ 0 ∧ (q.lane i).slot.node = session.node
  | _ => False

theorem Queue.visited_shut {q : Queue} (wired : q.Wired) {i : Nat} (inside : i < q.consumers)
    {move : Move} (shuts : q.Shuts i move) : (q.lane i).ShutsOut ((q.visited move).lane i) := by
  cases move with
  | release known session name => exact giveUp_spare inside shuts
  | disconnect known session name =>
    obtain ⟨bound, own⟩ := shuts
    simp only [visited, bound, ↓reduceIte]
    rw [disconnect, wakeProducer_lane, wired.lane_mapLanes inside, if_pos own]
    exact ⟨rfl, rfl, rfl⟩
  | _ => cases shuts

/-- What else a visit makes of a slot keeps to the reader's name, unless the visitor attaches. -/
theorem Queue.visited_mild {q : Queue} (wired : q.Wired) {i : Nat} (inside : i < q.consumers)
    {move : Move} {visit : Liveness × Session × String} (visits : move.visit? = some visit)
    (mild : q.Shuts i move → (q.lane i).slot.status = .done ∨ (q.lane i).slot.pid = 0)
    (quiet : ∀ known session name consumerNodes distribution limit,
      move = .bind known session name consumerNodes distribution limit →
        q.entry.producerPid ≠ 0 → (q.bindConsumer session name).2 ≠ .ok i) :
    (q.lane i).KeepsReader ((q.visited move).lane i) ∨
      (q.lane i).LetsGo ((q.visited move).lane i) := by
  cases move with
  | acquire => exact .inl (.refl _)
  | bind known session name consumerNodes distribution limit =>
    left
    simp only [visited]
    split
    · exact bindProducer_keepsReader q session consumerNodes distribution i inside
    · rename_i taken
      exact bindConsumer_keepsReader wired (quiet _ _ _ _ _ _ rfl taken)
  | release known session name =>
    by_cases closes : q.ClosesSpare session i
    · exact .inl ((giveUp_spare inside closes).keepsReader (mild closes))
    · rcases giveUp_other inside wired closes with same | went
      · rw [visited, same]
        exact .inl (.refl _)
      · exact .inr went
  | disconnect known session name =>
    left
    by_cases free : q.entry.producerPid = 0
    · simp only [visited, free, ↓reduceIte]
      exact .refl _
    · by_cases own : (q.lane i).slot.node = session.node
      · have shuts : q.Shuts i (.disconnect known session name) := ⟨free, own⟩
        exact (visited_shut wired inside shuts).keepsReader (mild shuts)
      · simp only [visited, free, ↓reduceIte]
        rw [disconnect_foreign wired inside own]
        exact .refl _
  | produce => cases visits
  | consume => cases visits

namespace Commons

variable {x : Commons} {e i : Nat} {move : Move} {pid : ProcessId}

/-- A process was bound as the reader of a slot of the queue that a place holds. -/
def ReadBy (x : Commons) (e i : Nat) (pid : ProcessId) : Prop :=
  ∃ seat ∈ x.consumers, seat.consumer.handle.entry = e ∧ seat.turn = x.turn e ∧
    seat.consumer.index = i ∧ seat.consumer.session.pid = pid

/-- A session is bound as the reader of a slot. -/
def Attaches (x : Commons) (move : Move) (e i : Nat) (session : Session) : Prop :=
  ∃ known name consumerNodes distribution limit,
    move = .bind known session name consumerNodes distribution limit ∧ known.check = .ok () ∧
      x.memory.find? x.geometry.maxQueues name = some e ∧ (x.memory.producerOf e).pid ≠ 0 ∧
      ((x.memory.queue (x.memory.handleAt e)).bindConsumer session name).2 = .ok i

/-- A session closes a slot beside its reader. -/
structure ShutsOut (x : Commons) (move : Move) (e i : Nat) : Prop where
  undone : (x.memory.laneAt e i).slot.status ≠ .done
  attached : (x.memory.laneAt e i).slot.pid ≠ 0
  visits : ∃ known session name, move.visit? = some (known, session, name) ∧
    known.check = .ok () ∧ x.memory.find? x.geometry.maxQueues name = some e ∧
      (x.memory.queue (x.memory.handleAt e)).Shuts i move

section Readers

theorem attaches_bind {known : Liveness} {session session' : Session} {name : String}
    {consumerNodes distribution : List NodeId} {limit : Nat} :
    x.Attaches (.bind known session name consumerNodes distribution limit) e i session' ↔
      session' = session ∧ known.check = .ok () ∧
        x.memory.find? x.geometry.maxQueues name = some e ∧ (x.memory.producerOf e).pid ≠ 0 ∧
        ((x.memory.queue (x.memory.handleAt e)).bindConsumer session name).2 = .ok i := by
  constructor
  · rintro ⟨_, _, _, _, _, made, attaches⟩
    cases made
    exact ⟨rfl, attaches⟩
  · rintro ⟨rfl, attaches⟩
    exact ⟨_, _, _, _, _, rfl, attaches⟩

theorem bind_readers (x : Commons) (known : Liveness) (session : Session) (name : String)
    (consumerNodes distribution : List NodeId) (limit : Nat) :
    let move := Move.bind known session name consumerNodes distribution limit
    (x.perform move).consumers = x.consumers ∧ (∀ e i session, ¬ x.Attaches move e i session) ∨
      ∃ e i, x.Attaches move e i session ∧ (x.perform move).consumers =
        x.consumers ++ [⟨⟨x.memory.handleAt e, session, i, false⟩, none, true, x.turn e⟩] := by
  intro move
  simp only [move, attaches_bind, perform, bind]
  by_cases hits : known.check = .ok () ∧ ∃ e, x.memory.find? x.geometry.maxQueues name = some e
  · obtain ⟨alive, e, found⟩ := hits
    by_cases free : (x.memory.producerOf e).pid = 0
    · rw [Segment.bind_vacant alive found free]
      refine .inl ⟨rfl, ?_⟩
      rintro e' i session' ⟨-, -, found', taken, -⟩
      obtain rfl := Option.some_inj.mp (found.symm.trans found')
      exact taken free
    · rw [Segment.bind_taken alive found free]
      cases admitted : ((x.memory.queue (x.memory.handleAt e)).bindConsumer session name).2 with
      | error cause =>
        refine .inl ⟨rfl, ?_⟩
        rintro e' i session' ⟨-, -, found', -, bound⟩
        obtain rfl := Option.some_inj.mp (found.symm.trans found')
        cases admitted.symm.trans bound
      | ok i => exact .inr ⟨e, i, ⟨trivial, alive, found, free, admitted⟩, rfl⟩
  · have missed : known.check = .ok () → x.memory.find? x.geometry.maxQueues name = none :=
      fun alive => Option.eq_none_iff_forall_ne_some.mpr fun e found => hits ⟨alive, e, found⟩
    obtain ⟨cause, failed⟩ := Segment.bind_missed missed session consumerNodes distribution
    rw [failed]
    refine .inl ⟨rfl, ?_⟩
    rintro e i session' ⟨-, alive, found, -⟩
    exact hits ⟨alive, e, found⟩

theorem perform_readers (x : Commons) (move : Move) :
    (x.perform move).consumers.map ConsumerSeat.charge = x.consumers.map ConsumerSeat.charge ∧
        (∀ e i session, ¬ x.Attaches move e i session) ∨
      ∃ e i session, x.Attaches move e i session ∧ (x.perform move).consumers =
        x.consumers ++ [⟨⟨x.memory.handleAt e, session, i, false⟩, none, true, x.turn e⟩] := by
  have quiet (other : ∀ {known session name consumerNodes distribution limit},
      move ≠ .bind known session name consumerNodes distribution limit) :
      ∀ e i session, ¬ x.Attaches move e i session := by
    rintro e i session ⟨_, _, _, _, _, made, -⟩
    exact other made
  cases move with
  | acquire known session name consumers =>
    exact .inl ⟨congrArg _ (x.acquire_seats known session name consumers).2, quiet Move.noConfusion⟩
  | bind known session name consumerNodes distribution limit =>
    rcases x.bind_readers known session name consumerNodes distribution limit with
      ⟨same, idle⟩ | ⟨e, i, attaches, listed⟩
    · exact .inl ⟨congrArg _ same, idle⟩
    · exact .inr ⟨e, i, session, attaches, listed⟩
  | release known session name =>
    exact .inl ⟨congrArg _ (x.release_seats known session name).2, quiet Move.noConfusion⟩
  | disconnect known session name => exact .inl ⟨rfl, quiet Move.noConfusion⟩
  | produce k move => exact .inl ⟨congrArg _ (produce_consumers x k move), quiet Move.noConfusion⟩
  | consume k move =>
    exact .inl ⟨consume_map ConsumerSeat.step_charge x k move, quiet Move.noConfusion⟩

theorem Attaches.unique {e' i' : Nat} {session session' : Session}
    (attaches : x.Attaches move e i session) (again : x.Attaches move e' i' session') :
    e' = e ∧ i' = i ∧ session' = session := by
  obtain ⟨_, _, _, _, _, rfl, -, found, -, bound⟩ := attaches
  obtain ⟨_, _, _, _, _, made, -, found', -, bound'⟩ := again
  cases made
  obtain rfl := Option.some_inj.mp (found.symm.trans found')
  exact ⟨rfl, Except.ok.inj (bound'.symm.trans bound), rfl⟩

/-- As long as a place holds its queue, readers only come, and only by being bound. -/
theorem readBy_perform (same : (x.perform move).turn e = x.turn e) :
    (x.perform move).ReadBy e i pid ↔
      x.ReadBy e i pid ∨ ∃ session, x.Attaches move e i session ∧ session.pid = pid := by
  rcases x.perform_readers move with ⟨charges, quiet⟩ | ⟨e', i', session, attaches, listed⟩
  · have moved {first second : List ConsumerSeat}
        (kept : second.map ConsumerSeat.charge = first.map ConsumerSeat.charge) {turn : Nat}
        (reads : ∃ seat ∈ first, seat.consumer.handle.entry = e ∧ seat.turn = turn ∧
          seat.consumer.index = i ∧ seat.consumer.session.pid = pid) :
        ∃ seat ∈ second, seat.consumer.handle.entry = e ∧ seat.turn = turn ∧
          seat.consumer.index = i ∧ seat.consumer.session.pid = pid := by
      obtain ⟨seat, member, entry, current, index, own⟩ := reads
      obtain ⟨other, there, kept⟩ := List.mem_map.mp
        (kept ▸ List.mem_map_of_mem (f := ConsumerSeat.charge) member)
      simp only [ConsumerSeat.charge, Prod.mk.injEq] at kept
      obtain ⟨handle, session, slot, turn⟩ := kept
      exact ⟨other, there, by rw [handle, entry], by rw [turn, current], by rw [slot, index],
        by rw [session, own]⟩
    constructor
    · intro reads
      rw [ReadBy, same] at reads
      exact .inl (moved charges.symm reads)
    · rintro (reads | ⟨session, attaches, -⟩)
      · rw [ReadBy, same]
        exact moved charges reads
      · exact absurd attaches (quiet e i session)
  · rw [ReadBy, same, listed]
    constructor
    · rintro ⟨seat, member, entry, current, index, own⟩
      rcases List.mem_append.mp member with before | new
      · exact .inl ⟨seat, before, entry, current, index, own⟩
      · obtain rfl := List.mem_singleton.mp new
        obtain rfl : e' = e := entry
        obtain rfl : i' = i := index
        exact .inr ⟨session, attaches, own⟩
    · rintro (⟨seat, member, rest⟩ | ⟨session', attaches', own⟩)
      · exact ⟨seat, List.mem_append_left _ member, rest⟩
      · obtain ⟨rfl, rfl, rfl⟩ := attaches.unique attaches'
        exact ⟨_, List.mem_append_right _ (List.mem_singleton_self _), rfl, rfl, rfl, own⟩

/-- No reader was bound to a queue that is still to come. -/
theorem readers_past (founded : x.Founded)
    (past : ∀ seat ∈ x.consumers, seat.turn ≤ x.turn seat.consumer.handle.entry) (move : Move) :
    ∀ seat ∈ (x.perform move).consumers,
      seat.turn ≤ (x.perform move).turn seat.consumer.handle.entry := by
  intro seat member
  have later := turn_le_perform founded move seat.consumer.handle.entry
  rcases x.perform_readers move with ⟨charges, -⟩ | ⟨e, i, session, -, listed⟩
  · obtain ⟨old, there, kept⟩ := List.mem_map.mp
      (charges ▸ List.mem_map_of_mem (f := ConsumerSeat.charge) member)
    simp only [ConsumerSeat.charge, Prod.mk.injEq] at kept
    obtain ⟨handle, -, -, turn⟩ := kept
    have before := past old there
    rw [handle, turn] at before
    exact Nat.le_trans before later
  · rw [listed] at member
    rcases List.mem_append.mp member with before | new
    · exact Nat.le_trans (past seat before) later
    · obtain rfl := List.mem_singleton.mp new
      exact later

theorem readers_past_run (c : Config) (creator : ProcessId) (moves : List Move) :
    ∀ seat ∈ ((start c creator).run moves).consumers,
      seat.turn ≤ ((start c creator).run moves).turn seat.consumer.handle.entry := by
  have kept := run_induction (x := start c creator) (motive := fun y => y.Founded ∧
    ∀ seat ∈ y.consumers, seat.turn ≤ y.turn seat.consumer.handle.entry)
    ⟨.start c creator, nofun⟩
    (fun y move before => ⟨before.1.perform move, readers_past before.1 before.2 move⟩) moves
  exact kept.2

end Readers

/-- What a move makes of a lane, as far as its reader is concerned. -/
inductive Reader (x : Commons) (move : Move) (e i : Nat) (before after : Lane) : Prop
  | shuts (shuts : x.ShutsOut move e i) (shut : before.ShutsOut after)
  | attaches (session : Session) (attaches : x.Attaches move e i session)
      (free : before.slot.pid = 0) (undone : before.slot.status ≠ .done)
      (made : after =
        ⟨{ before.slot with pid := session.pid }, before.latch.own session.pid⟩)
  | lets (mild : ¬ x.ShutsOut move e i) (quiet : ∀ session, ¬ x.Attaches move e i session)
      (went : before.KeepsReader after ∨ before.LetsGo after)

/-- A session that comes to the queue shuts a slot, attaches to it or lets its reader be. -/
theorem visit_reader (founded : x.Founded) (paired : x.ledger.Paired)
    (same : (x.perform move).turn e = x.turn e)
    (inside : i < (x.memory.entries.getD e default).slots.size) {known : Liveness}
    {session : Session} {name : String} (visit : move.visit? = some (known, session, name)) :
    x.Reader move e i (x.memory.laneAt e i) ((x.perform move).memory.laneAt e i) := by
  rcases visit_laneAt paired founded visit same i with ⟨alive, found, made⟩ | ⟨missed, made⟩
  · let q := x.memory.queue (x.memory.handleAt e)
    have wired : q.Wired := (serves_found founded found).wired
    have before : x.memory.laneAt e i = q.lane i :=
      (Segment.lane_eq_laneAt x.memory (found_paired paired found) i).symm
    rw [made, before]
    by_cases shuts : x.ShutsOut move e i
    · obtain ⟨known', session', name', visit', -, found', closes⟩ := shuts.visits
      exact .shuts shuts (Queue.visited_shut wired inside closes)
    · by_cases attaches : ∃ session, x.Attaches move e i session
      · obtain ⟨session, attaches⟩ := attaches
        obtain ⟨_, name, _, _, _, rfl, -, -, taken, bound⟩ := id attaches
        obtain ⟨free, undone, attached⟩ := Queue.bindConsumer_attaches wired bound
        have taken : q.entry.producerPid ≠ 0 := taken
        refine .attaches session attaches free undone ?_
        simp only [Queue.visited, q, taken, ↓reduceIte]
        exact attached
      · have quiet := not_exists.mp attaches
        refine .lets shuts quiet (Queue.visited_mild wired inside visit (fun closes => ?_) ?_)
        · by_contra unshut
          obtain ⟨undone, attached⟩ := not_or.mp unshut
          exact shuts ⟨before ▸ undone, before ▸ attached, known, session, name, visit, alive, found,
            closes⟩
        · rintro known' session' name' consumerNodes distribution limit rfl taken bound
          cases visit
          exact quiet session ⟨known, name, consumerNodes, distribution, limit, rfl, alive, found,
            taken, bound⟩
  · rw [made]
    refine .lets ?_ ?_ (.inl (.refl _))
    · rintro ⟨-, -, _, _, _, visit', alive, found, -⟩
      cases visit.symm.trans visit'
      exact missed ⟨alive, found⟩
    · rintro session' ⟨_, _, _, _, _, rfl, alive, found, -⟩
      cases visit
      exact missed ⟨alive, found⟩

theorem perform_reader (founded : x.Founded) (paired : x.ledger.Paired)
    (same : (x.perform move).turn e = x.turn e)
    (inside : i < (x.memory.entries.getD e default).slots.size) :
    x.Reader move e i (x.memory.laneAt e i) ((x.perform move).memory.laneAt e i) := by
  cases visit : move.visit? with
  | some call =>
    obtain ⟨known, session, name⟩ := call
    exact visit_reader founded paired same inside visit
  | none =>
    -- whoever moves is at a queue already
    refine .lets ?_ ?_ (.inl ?_)
    · intro shuts
      obtain ⟨_, _, _, visit', -⟩ := shuts.visits
      cases visit.symm.trans visit'
    · rintro session ⟨_, _, _, _, _, rfl, -⟩
      cases visit
    · cases move with
      | produce k move =>
        cases here : x.producers[k]? with
        | none =>
          rw [perform, produce_none here]
          exact .refl _
        | some seat =>
          have held : seat.holding ∈ x.ledger.producers :=
            List.mem_map_of_mem (List.mem_of_getElem? here)
          exact (produce_changes founded Lane.keepsReader_obeys here move).laneAt
            Lane.KeepsReader.refl (paired.producers _ held) inside
      | consume k move =>
        cases here : x.consumers[k]? with
        | none =>
          rw [perform, consume_none here]
          exact .refl _
        | some seat =>
          have held : seat.holding ∈ x.ledger.consumers :=
            List.mem_map_of_mem (List.mem_of_getElem? here)
          exact (consume_changes founded Lane.keepsReader_readers here move).laneAt
            Lane.KeepsReader.refl (paired.consumers _ held) inside
      | _ => cases visit

/-- Whose name the latch of a slot carries, if somebody `shut` the slot beside its reader or nobody
did. -/
structure Signed (x : Commons) (e i : Nat) (shut : Prop) : Prop where
  named : ¬ shut → (x.memory.laneAt e i).latch.owner = (x.memory.laneAt e i).reader
  beside : shut → (x.memory.laneAt e i).slot.status = .done ∧ (x.memory.laneAt e i).slot.pid ≠ 0 ∧
    (x.memory.laneAt e i).latch.owner = (x.memory.laneAt e i).slot.pid
  reader : ∀ pid, x.ReadBy e i pid → pid ≠ 0 ∧
    ((x.memory.laneAt e i).slot.status ≠ .done → (x.memory.laneAt e i).slot.pid = pid)
  attached : (x.memory.laneAt e i).slot.pid ≠ 0 → x.ReadBy e i (x.memory.laneAt e i).slot.pid

theorem Signed.perform {shut : Prop} (signed : x.Signed e i shut) (founded : x.Founded)
    (paired : x.ledger.Paired) (name : Named move) (same : (x.perform move).turn e = x.turn e)
    (inside : i < (x.memory.entries.getD e default).slots.size) :
    (x.perform move).Signed e i (shut ∨ x.ShutsOut move e i) := by
  have readers (pid : ProcessId) : (x.perform move).ReadBy e i pid ↔
      x.ReadBy e i pid ∨ ∃ session, x.Attaches move e i session ∧ session.pid = pid :=
    readBy_perform same
  cases perform_reader founded paired same inside with
  | shuts shuts shut' =>
    have unshut : ¬ shut := fun before => shuts.undone (signed.beside before).1
    have owner := (signed.named unshut).trans (Lane.reader_of_undone shuts.undone)
    refine ⟨fun none => absurd (.inr shuts) none, fun _ => ⟨shut'.done, ?_, ?_⟩, ?_, ?_⟩
    · rw [shut'.pid]
      exact shuts.attached
    · rw [shut'.owner, shut'.pid]
      exact owner
    · intro pid reads
      refine ⟨?_, fun undone => absurd shut'.done undone⟩
      rcases (readers pid).mp reads with before | ⟨session, attaches, rfl⟩
      · exact (signed.reader pid before).1
      · obtain ⟨_, _, _, _, _, rfl, -⟩ := attaches
        exact name
    · intro attached
      rw [shut'.pid] at attached ⊢
      exact (readers _).mpr (.inl (signed.attached attached))
  | attaches session attaches free undone made =>
    have unshut : ¬ shut := fun before => undone (signed.beside before).1
    have unshuts : ¬ x.ShutsOut move e i := fun shuts => shuts.attached free
    have named : session.pid ≠ 0 := by
      obtain ⟨_, _, _, _, _, rfl, -⟩ := id attaches
      exact name
    refine ⟨fun _ => ?_, fun shut' => absurd shut' (not_or.mpr ⟨unshut, unshuts⟩), ?_, ?_⟩
    · rw [made]
      exact (if_neg undone).symm
    · intro pid reads
      rw [made]
      rcases (readers pid).mp reads with before | ⟨session', attaches', rfl⟩
      · obtain ⟨some, slot⟩ := signed.reader pid before
        exact absurd ((slot undone).symm.trans free) some
      · obtain ⟨-, -, rfl⟩ := attaches.unique attaches'
        exact ⟨named, fun _ => rfl⟩
    · intro _
      rw [made]
      exact (readers _).mpr (.inr ⟨session, attaches, rfl⟩)
  | lets mild quiet went =>
    have only (pid : ProcessId) : (x.perform move).ReadBy e i pid ↔ x.ReadBy e i pid :=
      (readers pid).trans (or_iff_left fun ⟨session, attaches, _⟩ => quiet session attaches)
    have before : shut ∨ x.ShutsOut move e i → shut := fun shut' => shut'.resolve_right mild
    rcases went with keeps | letsGo
    · refine ⟨fun none => keeps.named (signed.named fun shut' => none (.inl shut')), fun shut' => ?_,
        ?_, ?_⟩
      · obtain ⟨done, some, owner⟩ := signed.beside (before shut')
        obtain ⟨still, kept⟩ := keeps.done done
        rw [keeps.pid, kept]
        exact ⟨still, some, owner⟩
      · intro pid reads
        obtain ⟨some, slot⟩ := signed.reader pid ((only pid).mp reads)
        rw [keeps.pid]
        exact ⟨some, fun undone => slot fun done => undone (keeps.done done).1⟩
      · intro attached
        rw [keeps.pid] at attached ⊢
        exact (only _).mpr (signed.attached attached)
    · refine ⟨fun _ => ?_, fun shut' => absurd (signed.beside (before shut')).1 letsGo.undone, ?_,
        fun attached => absurd letsGo.pid attached⟩
      · rw [letsGo.owner, Lane.reader_of_done letsGo.done]
      · intro pid reads
        exact ⟨(signed.reader pid ((only pid).mp reads)).1, fun undone => absurd letsGo.done undone⟩

theorem laidOut_signed (founded : x.Founded) (paired : x.ledger.Paired)
    (past : ∀ seat ∈ x.consumers, seat.turn ≤ x.turn seat.consumer.handle.entry)
    (laid : (x.perform move).turn e ≠ x.turn e)
    (inside : i < ((x.perform move).memory.entries.getD e default).slots.size) :
    (x.perform move).Signed e i False := by
  obtain ⟨-, idle⟩ := laidOut_idle founded paired laid
  obtain ⟨nobody, latch⟩ := idle i inside
  have unread (pid : ProcessId) : ¬ (x.perform move).ReadBy e i pid := by
    rintro ⟨seat, member, rfl, current, -⟩
    rw [(laidOut_seats laid).2] at member
    have before := past seat member
    have later := turn_le_perform founded move seat.consumer.handle.entry
    omega
  refine ⟨fun _ => ?_, False.elim, fun pid reads => absurd reads (unread pid),
    fun attached => absurd nobody attached⟩
  rw [latch, Lane.reader, nobody, ite_self]
  rfl

/-- The slot of the queue that a place holds at the end of a run was closed beside its reader on the
way. -/
inductive ShutOut (x : Commons) (moves : List Move) (e i : Nat) : Prop
  | intro (earlier later : List Move) (move : Move) (passed : moves = earlier ++ move :: later)
      (queue : (x.run earlier).turn e = (x.run moves).turn e)
      (shuts : (x.run earlier).ShutsOut move e i)

/-- Either the last move did so, or another one before while the place held the same queue. -/
theorem shutOut_concat (founded : x.Founded) (moves : List Move) (move : Move) (e i : Nat) :
    x.ShutOut (moves ++ [move]) e i ↔
      ((x.run moves).perform move).turn e = (x.run moves).turn e ∧
        (x.ShutOut moves e i ∨ (x.run moves).ShutsOut move e i) := by
  have last : x.run (moves ++ [move]) = (x.run moves).perform move := run_append ..
  constructor
  · rintro ⟨earlier, later, found, passed, queue, shuts⟩
    rw [last] at queue
    rcases List.eq_nil_or_concat later with rfl | ⟨front, end', rfl⟩
    · obtain ⟨rfl, same⟩ := List.append_inj' passed rfl
      obtain rfl := List.singleton_inj.mp same
      exact ⟨queue.symm, .inr shuts⟩
    · rw [List.concat_eq_append, ← List.cons_append, ← List.append_assoc] at passed
      obtain ⟨rfl, -⟩ := List.append_inj' passed rfl
      have runs : x.run (earlier ++ found :: front) = (x.run earlier).run (found :: front) :=
        run_append ..
      have first := turn_le_run (founded.run earlier) (found :: front) e
      have second := turn_le_perform (founded.run (earlier ++ found :: front)) move e
      rw [← runs] at first
      exact ⟨by omega, .inl (.intro earlier front found rfl (by omega) shuts)⟩
  · rintro ⟨same, ⟨earlier, later, found, passed, queue, shuts⟩ | shuts⟩
    · refine .intro earlier (later ++ [move]) found ?_ ?_ shuts
      · rw [passed, List.append_assoc, List.cons_append]
      · rw [last, same]
        exact queue
    · refine .intro moves [] move rfl ?_ shuts
      rw [last, same]

theorem signed_run (c : Config) (creator : ProcessId) (moves : List Move)
    (named : Along (fun _ move => Named move) (start c creator) moves)
    (inside : i < (((start c creator).run moves).memory.entries.getD e default).slots.size) :
    ((start c creator).run moves).Signed e i ((start c creator).ShutOut moves e i) := by
  induction moves using List.reverseRecOn with
  | nil =>
    have none := Segment.create_slots c creator e
    exact absurd (Nat.lt_of_lt_of_eq inside none) (Nat.not_lt_zero i)
  | append_singleton moves move ih =>
    obtain ⟨along, name⟩ := (along_concat ..).mp named
    have founded : ((start c creator).run moves).Founded := (Founded.start c creator).run moves
    have paired := paired_from_start c creator moves
    have last : (start c creator).run (moves ++ [move]) =
        ((start c creator).run moves).perform move := run_append ..
    have shutOut := shutOut_concat (Founded.start c creator) moves move e i
    rw [last] at inside ⊢
    by_cases same : (((start c creator).run moves).perform move).turn e =
        ((start c creator).run moves).turn e
    · rw [(perform_livesOn founded move same).size] at inside
      rw [propext shutOut, and_iff_right same]
      exact (ih along inside).perform founded paired name same inside
    · have none : ¬ (start c creator).ShutOut (moves ++ [move]) e i := fun shut =>
        same (shutOut.mp shut).1
      rw [eq_false none]
      exact laidOut_signed founded paired (readers_past_run c creator moves) same inside

/-- Whenever there is a queue in a place, and every session that was bound is a process, zero being
nobody's name. The latch of a slot that is not done names the process attached there, which is the
one that was bound as the reader of the slot, and nobody if none was. The latch of a slot that is
done carries a name exactly if the slot was closed beside its reader, and then it is the reader's.
The producer's latch names the producer that was bound to the queue until it has let go, and
otherwise nobody, if sessions give up no more claims than they made. -/
theorem latch_named_iff (c : Config) (creator : ProcessId) (moves : List Move)
    (named : Along (fun _ move => Named move) (start c creator) moves) (e : Nat)
    (live : (((start c creator).run moves).memory.register.title e).live = true) :
    let x := (start c creator).run moves
    let q := x.memory.queue (x.memory.handleAt e)
    (∀ i, i < q.consumers →
      ((q.lane i).slot.status ≠ .done → (q.lane i).latch.owner = (q.lane i).slot.pid ∧
        ∀ pid, x.ReadBy e i pid ↔ pid ≠ 0 ∧ pid = (q.lane i).slot.pid) ∧
      ((q.lane i).slot.status = .done →
        ((q.lane i).latch.owner ≠ 0 ↔ (start c creator).ShutOut moves e i) ∧
          ((q.lane i).latch.owner ≠ 0 → x.ReadBy e i (q.lane i).latch.owner))) ∧
    (Along Modest (start c creator) moves →
      (∀ k seat, x.producerAt e k = some seat →
        q.sync.producer.owner = if seat.isOpen then seat.producer.session.pid else 0) ∧
      (x.Unbound e → q.sync.producer.owner = 0)) := by
  intro x q
  have paired : x.ledger.Paired := paired_from_start c creator moves
  have block : (x.memory.handleAt e).block = e := paired.titles e live
  refine ⟨fun i inside => ?_, fun modest => ?_⟩
  · have signed : x.Signed e i ((start c creator).ShutOut moves e i) :=
      signed_run c creator moves named inside
    have lane : q.lane i = x.memory.laneAt e i := Segment.lane_eq_laneAt x.memory block i
    rw [lane]
    refine ⟨fun undone => ⟨?_, fun pid => ⟨fun reads => ?_, ?_⟩⟩, fun done => ?_⟩
    · have unshut : ¬ (start c creator).ShutOut moves e i := fun shut => undone (signed.beside shut).1
      rw [signed.named unshut, Lane.reader_of_undone undone]
    · obtain ⟨some, slot⟩ := signed.reader pid reads
      exact ⟨some, (slot undone).symm⟩
    · rintro ⟨some, rfl⟩
      exact signed.attached some
    · by_cases shut : (start c creator).ShutOut moves e i
      · obtain ⟨-, some, owner⟩ := signed.beside shut
        rw [owner]
        exact ⟨iff_of_true some shut, signed.attached⟩
      · have nobody := (signed.named shut).trans (Lane.reader_of_done done)
        exact ⟨iff_of_false (not_not.mpr nobody) shut, fun some => absurd nobody some⟩
  · have owned : x.Owned e := owned_run c creator moves named modest e
    have owner : q.sync.producer.owner = x.memory.ownerAt e := congrArg x.memory.ownerAt block
    rw [owner]
    exact ⟨owned.bound, owned.vacant⟩

def reportedGone : List Move :=
  [.acquire undisturbed ⟨100, 0⟩ "rows" 1, .acquire undisturbed ⟨101, 1⟩ "rows" 1,
    .bind undisturbed ⟨100, 0⟩ "rows" [1] [0, 1] 64,
    .bind undisturbed ⟨101, 1⟩ "rows" [1] [0, 1] 64,
    .disconnect undisturbed ⟨102, 1⟩ "rows"]

theorem latch_named_iff_reportedGone :
    let x := (start narrow 1).run reportedGone
    Along (fun _ move => Named move) (start narrow 1) reportedGone ∧
      (x.memory.register.title 0).live = true ∧ Along Modest (start narrow 1) reportedGone ∧
      (start narrow 1).ShutOut reportedGone 0 0 ∧ x.ReadBy 0 0 101 ∧
      (x.memory.queue (x.memory.handleAt 0)).sync.producer.owner = 100 := by
  intro x
  have named : Along (fun _ move => Named move) (start narrow 1) reportedGone := by decide +kernel
  have live : (x.memory.register.title 0).live = true := by decide +kernel
  have modest : Along Modest (start narrow 1) reportedGone := by decide +kernel
  have inside : 0 < (x.memory.queue (x.memory.handleAt 0)).consumers := by decide +kernel
  have ended : ((x.memory.queue (x.memory.handleAt 0)).lane 0).slot.status = .done := by
    decide +kernel
  have owner : ((x.memory.queue (x.memory.handleAt 0)).lane 0).latch.owner = 101 := by
    decide +kernel
  have bound : (x.producerAt 0 0).map (fun seat => (seat.isOpen, seat.producer.session.pid)) =
      some (true, 100) := by decide +kernel
  obtain ⟨slots, producer⟩ := latch_named_iff narrow 1 reportedGone named 0 live
  obtain ⟨shut, reader⟩ := (slots 0 inside).2 ended
  have some : ((x.memory.queue (x.memory.handleAt 0)).lane 0).latch.owner ≠ 0 := by
    rw [owner]
    decide
  have reads := reader some
  rw [owner] at reads
  obtain ⟨seat, here, found⟩ := Option.map_eq_some_iff.mp bound
  simp only [Prod.mk.injEq] at found
  have names := (producer modest).1 0 seat here
  rw [found.1, found.2] at names
  exact ⟨named, live, modest, shut.mp some, reads, names⟩

/-- Its slot is done, and its name still on the latch. -/
theorem reported_reader_keeps_name :
    let x := (start narrow 1).run reportedGone
    let q := x.memory.queue (x.memory.handleAt 0)
    Along (fun _ move => Named move) (start narrow 1) reportedGone ∧
      (x.memory.register.title 0).live = true ∧ 0 < q.consumers ∧
      (q.lane 0).slot.status = .done ∧ (q.lane 0).latch.owner = 101 := by
  decide +kernel

end Commons

end RecordExchange
