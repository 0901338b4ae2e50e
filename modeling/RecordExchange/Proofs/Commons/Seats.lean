import RecordExchange.Proofs.Commons.Lifecycle
import RecordExchange.Proofs.Queue.Attendance

set_option autoImplicit false

/-!
Who is at which queue.

As long as every session that binds is a process, zero being nobody's name, a queue has one producer
and each of its slots one reader: a producer leaves its name at the queue and a reader at its slot,
and nobody takes the place of another.
-/

namespace RecordExchange

/-- What a producer was bound to, and how many queues the place had been laid out for then. -/
def ProducerSeat.post (seat : ProducerSeat) : Handle × Nat := (seat.producer.handle, seat.turn)

/-- What a reader was bound to, how many queues the place had been laid out for then, and the
slot. -/
def ConsumerSeat.post (seat : ConsumerSeat) : Handle × Nat × Nat :=
  (seat.consumer.handle, seat.turn, seat.consumer.index)

theorem ProducerSeat.step_post (seat : ProducerSeat) (s : Segment) (move : ProducerMove) :
    (seat.step s move).1.post = seat.post := by
  rcases seat.step_cases s move with ⟨same, -⟩ | ⟨-, closed, -⟩
  · exact Prod.ext (congrArg Holding.handle same) (congrArg Holding.turn same)
  · exact Prod.ext (congrArg Holding.handle closed) (congrArg Holding.turn closed)

theorem ConsumerSeat.step_post (seat : ConsumerSeat) (q : Queue) (move : ConsumerMove) :
    (seat.step q move).1.post = seat.post := by
  have index : (seat.step q move).1.consumer.index = seat.consumer.index := by
    have read (seat : ConsumerSeat) (canWait : Bool) (point : ReadPoint) :
        (seat.read canWait point q).1.consumer.index = seat.consumer.index := by
      have frame := seat.consumer.readStep_frame canWait point q
      simp only [ConsumerSeat.read]
      cases (seat.consumer.readStep canWait point q).2.2 with
      | sleeps next => exact frame.index
      | ended result => exact frame.index
    unfold step
    split
    · split
      · exact read ..
      · exact read ..
      · split
        · rfl
        · rfl
      · exact (seat.consumer.reset_frame q).2.2
      · rfl
      · rfl
    · rfl
  rcases (seat.step_cases q move).2 with same | ⟨-, closed⟩
  · exact Prod.ext (congrArg Holding.handle same)
      (Prod.ext (congrArg Holding.turn same) index)
  · exact Prod.ext (congrArg Holding.handle closed)
      (Prod.ext (congrArg Holding.turn closed) index)

theorem Ledger.Step.block {l after : Ledger} {move : Move} (step : Ledger.Step l move after) {e : Nat}
    (same : (after.laidOut e).length = (l.laidOut e).length) :
    (after.register.title e).block = (l.register.title e).block := by
  cases step with
  | quiet => rfl
  | @create _ _ name _ i b =>
    by_cases here : e = i
    · subst here
      rw [show ({ l with
        register := l.register.layOut e b name
        claims := (_, name) :: l.claims
        laidOut := Function.update l.laidOut e (name :: l.laidOut e) } : Ledger).laidOut e =
          name :: l.laidOut e from Function.update_self .., List.length_cons] at same
      omega
    · exact congrArg Title.block (Register.layOut_title_other l.register here b name)
  | join => exact (Register.setReferences_title l.register _ _ e).2.2
  | takeProducer => exact (Register.setReferences_title l.register _ _ e).2.2
  | takeConsumer => rfl
  | give => exact (Register.drop_title l.register _ _ e).2.2
  | giveNothing => rfl
  | settle => exact (Register.drop_title l.register _ _ e).2.2
  | leave => rfl

theorem Segment.dropReference_producerOf (s : Segment) (h : Handle) :
    (s.dropReference h).producerOf = s.producerOf := by
  funext e
  exact dropReference_entry Entry.producer (fun _ _ => rfl) (fun _ => rfl) s h e

namespace Commons

variable {x : Commons}

/-- A session takes up the producer's role in the queue of a place, where nobody has it. -/
def TakesUp (x : Commons) (move : Move) (e : Nat) : Prop :=
  ∃ live session name consumerNodes distribution limit,
    move = .bind live session name consumerNodes distribution limit ∧ live.check = .ok () ∧
      x.memory.find? x.geometry.maxQueues name = some e ∧ (x.memory.producerOf e).pid = 0

theorem TakesUp.unique {move : Move} {e i : Nat} (takes : x.TakesUp move e)
    (again : x.TakesUp move i) : i = e := by
  obtain ⟨_, _, _, _, _, _, rfl, -, found, -⟩ := takes
  obtain ⟨_, _, _, _, _, _, made, -, found', -⟩ := again
  cases made
  exact Option.some_inj.mp (found'.symm.trans found)

/-- A claim changes no queue's producer, unless it lays a queue out in the place. -/
theorem acquire_producerOf (founded : x.Founded) (live : Liveness) (session : Session)
    (name : String) (consumers : Nat) {e : Nat}
    (same : (x.acquire live session name consumers).turn e = x.turn e) :
    (x.acquire live session name consumers).memory.producerOf e = x.memory.producerOf e := by
  rcases x.acquire_cases live session name consumers with
    quiet | ⟨i, b, -, -, -, -, -, made⟩ | ⟨i, found, made⟩
  · rw [quiet]
  · have elsewhere : e ≠ i := elsewhere_of_turn (congrArg laidOut made) same
    rw [made, Segment.producerOf, Segment.setQueueAt_entry_other elsewhere]
    rfl
  · rw [made]
    dsimp only
    rw [Segment.producerOf_setQueue (serves_found founded found).has]
    split
    · rename_i here
      subst here
      rfl
    · rfl

/-- Who binds changes a queue's producer only by taking up that role. -/
theorem bind_producerOf (founded : x.Founded) (live : Liveness) (session : Session) (name : String)
    (consumerNodes distribution : List NodeId) (limit e : Nat) :
    (x.bind live session name consumerNodes distribution limit).memory.producerOf e =
        x.memory.producerOf e ∨
      x.TakesUp (.bind live session name consumerNodes distribution limit) e := by
  simp only [bind]
  rcases x.memory.bind_roles x.geometry live session name consumerNodes distribution with
    ⟨cause, failed⟩ | ⟨i, alive, found, free, bound⟩ | ⟨i, found, taken, bound⟩
  · rw [failed]
    exact .inl rfl
  · by_cases here : e = i
    · subst here
      exact .inr ⟨live, session, name, consumerNodes, distribution, limit, rfl, alive, found, free⟩
    · left
      rw [bound]
      exact (Segment.producerOf_setQueue (serves_found founded found).has _ e).trans (if_neg here)
  · left
    have keeps : x.memory.Keeps (x.memory.setQueue (x.memory.handleAt i)
        ((x.memory.queue (x.memory.handleAt i)).bindConsumer session name).1) :=
      .setQueue (Queue.bindConsumer_outline ..)
    rw [bound]
    cases ((x.memory.queue (x.memory.handleAt i)).bindConsumer session name).2 with
    | error cause => exact congrFun keeps.producers e
    | ok j => exact congrFun keeps.producers e

/-- As long as a place holds its queue, the queue's producer is the same, unless a session takes up
that role. -/
theorem perform_producerOf (founded : x.Founded) (move : Move) {e : Nat}
    (same : (x.perform move).turn e = x.turn e) :
    (x.perform move).memory.producerOf e = x.memory.producerOf e ∨ x.TakesUp move e := by
  have kept {t : Segment} (keeps : x.memory.Keeps t) :
      t.producerOf e = x.memory.producerOf e := congrFun keeps.producers e
  cases move with
  | acquire live session name consumers =>
    exact .inl (acquire_producerOf founded live session name consumers same)
  | bind live session name consumerNodes distribution limit =>
    exact bind_producerOf founded live session name consumerNodes distribution limit e
  | release live session name =>
    left
    simp only [perform, release]
    rcases x.memory.release_cases x.geometry live session name with
      ⟨cause, failed⟩ | ⟨missing, nothing⟩ | ⟨i, t, found, keeps, released⟩
    · rw [failed]
    · rw [nothing]
    · rw [released]
      dsimp only
      rw [Segment.dropReference_producerOf]
      exact kept keeps
  | disconnect live session name =>
    exact .inl (kept (x.memory.disconnectConsumer_keeps x.geometry live session name))
  | produce k move =>
    left
    simp only [perform, produce]
    cases x.producers[k]? with
    | none => rfl
    | some seat =>
      rcases seat.step_cases x.memory move with ⟨-, keeps⟩ | ⟨-, -, t, keeps, dropped⟩
      · exact kept keeps
      · dsimp only
        rw [dropped, Segment.dropReference_producerOf]
        exact kept keeps
  | consume k move =>
    left
    simp only [perform, consume]
    cases x.consumers[k]? with
    | none => rfl
    | some seat =>
      exact kept (.setQueue (seat.step_cases (x.memory.queue seat.consumer.handle) move).1)

/-- A producer that was named at a queue stays so as long as the place holds it. -/
theorem perform_named (founded : x.Founded) (move : Move) {e : Nat}
    (same : (x.perform move).turn e = x.turn e) (named : (x.memory.producerOf e).pid ≠ 0) :
    (x.perform move).memory.producerOf e = x.memory.producerOf e := by
  rcases perform_producerOf founded move same with kept | ⟨_, _, _, _, _, _, _, _, _, free⟩
  · exact kept
  · exact absurd free named

/-- Claiming a queue and giving a claim up take up no role. -/
theorem acquire_seats (x : Commons) (live : Liveness) (session : Session) (name : String)
    (consumers : Nat) :
    (x.acquire live session name consumers).producers = x.producers ∧
      (x.acquire live session name consumers).consumers = x.consumers := by
  rw [acquire]
  split
  · exact ⟨rfl, rfl⟩
  · split
    · exact ⟨rfl, rfl⟩
    · exact ⟨rfl, rfl⟩

theorem release_seats (x : Commons) (live : Liveness) (session : Session) (name : String) :
    (x.release live session name).producers = x.producers ∧
      (x.release live session name).consumers = x.consumers := by
  rw [release]
  split
  · exact ⟨rfl, rfl⟩
  · exact ⟨rfl, rfl⟩

/-- What no step changes of a producer, no move changes of any. -/
theorem produce_map {α : Type} {f : ProducerSeat → α}
    (kept : ∀ (seat : ProducerSeat) (s : Segment) (move : ProducerMove),
      f (seat.step s move).1 = f seat) (x : Commons) (k : Nat) (move : ProducerMove) :
    (x.produce k move).producers.map f = x.producers.map f := by
  cases here : x.producers[k]? with
  | none => rw [produce_none here]
  | some seat =>
    rw [produce_eq here, List.map_set, kept]
    apply set_same
    rw [List.getElem?_map, here]
    rfl

theorem consume_map {α : Type} {f : ConsumerSeat → α}
    (kept : ∀ (seat : ConsumerSeat) (q : Queue) (move : ConsumerMove),
      f (seat.step q move).1 = f seat) (x : Commons) (k : Nat) (move : ConsumerMove) :
    (x.consume k move).consumers.map f = x.consumers.map f := by
  cases here : x.consumers[k]? with
  | none => rw [consume_none here]
  | some seat =>
    simp only [consume, here, List.map_set, kept]
    apply set_same
    rw [List.getElem?_map, here]
    rfl

theorem produce_consumers (x : Commons) (k : Nat) (move : ProducerMove) :
    (x.produce k move).consumers = x.consumers := by
  unfold produce
  split
  · rfl
  · rfl

theorem consume_producers (x : Commons) (k : Nat) (move : ConsumerMove) :
    (x.consume k move).producers = x.producers := by
  unfold consume
  split
  · rfl
  · rfl

theorem produce_posts (x : Commons) (k : Nat) (move : ProducerMove) :
    (x.produce k move).producers.map ProducerSeat.post = x.producers.map ProducerSeat.post ∧
      (x.produce k move).consumers = x.consumers :=
  ⟨produce_map ProducerSeat.step_post x k move, produce_consumers x k move⟩

theorem consume_posts (x : Commons) (k : Nat) (move : ConsumerMove) :
    (x.consume k move).consumers.map ConsumerSeat.post = x.consumers.map ConsumerSeat.post ∧
      (x.consume k move).producers = x.producers :=
  ⟨consume_map ConsumerSeat.step_post x k move, consume_producers x k move⟩

/-- No two producers were bound to the same queue and no two readers to the same slot; the queue
that a place holds carries the name of its producer, and what a reader was bound to is attended. -/
structure Manned (x : Commons) : Prop where
  producers : (x.producers.map ProducerSeat.post).Pairwise fun a b =>
    ¬ (a.1.entry = b.1.entry ∧ a.2 = b.2)
  readers : (x.consumers.map ConsumerSeat.post).Pairwise fun a b =>
    ¬ (a.1.entry = b.1.entry ∧ a.2 = b.2)
  bound : ∀ a ∈ x.producers.map ProducerSeat.post, a.2 ≤ x.turn a.1.entry ∧
    (a.2 = x.turn a.1.entry → (x.memory.register.title a.1.entry).block = a.1.block ∧
      (x.memory.producerOf a.1.entry).pid ≠ 0)
  attached : ∀ a ∈ x.consumers.map ConsumerSeat.post, a.2.1 ≤ x.turn a.1.entry ∧
    (a.2.1 = x.turn a.1.entry → (x.memory.register.title a.1.entry).block = a.1.block ∧
      a.2.2 < (x.memory.entries.getD a.1.entry default).slots.size ∧
      (x.memory.slotAt a.1.entry a.2.2).Attended)

/-- Nobody was bound to a queue that is yet to be laid out. -/
theorem Manned.bound_past (manned : x.Manned) {k : Nat} {seat : ProducerSeat}
    (here : x.producers[k]? = some seat) : seat.turn ≤ x.turn seat.producer.handle.entry :=
  (manned.bound seat.post (List.mem_map_of_mem (List.mem_of_getElem? here))).1

theorem Manned.attached_past (manned : x.Manned) {k : Nat} {seat : ConsumerSeat}
    (here : x.consumers[k]? = some seat) : seat.turn ≤ x.turn seat.consumer.handle.entry :=
  (manned.attached seat.post (List.mem_map_of_mem (List.mem_of_getElem? here))).1

/-- A queue in the place it was bound to has its producer's name. -/
theorem Manned.bound_at (manned : x.Manned) {k e : Nat} {seat : ProducerSeat}
    (here : x.producers[k]? = some seat)
    (place : seat.producer.handle.entry = e ∧ seat.turn = x.turn e) :
    (x.memory.register.title e).block = seat.producer.handle.block ∧
      (x.memory.producerOf e).pid ≠ 0 := by
  obtain ⟨rfl, current⟩ := place
  exact (manned.bound seat.post (List.mem_map_of_mem (List.mem_of_getElem? here))).2 current

/-- A slot of a queue in the place it was bound to is there for its reader. -/
theorem Manned.attached_at (manned : x.Manned) {k e : Nat} {seat : ConsumerSeat}
    (here : x.consumers[k]? = some seat)
    (place : seat.consumer.handle.entry = e ∧ seat.turn = x.turn e) :
    (x.memory.register.title e).block = seat.consumer.handle.block ∧
      seat.consumer.index < (x.memory.entries.getD e default).slots.size ∧
      (x.memory.slotAt e seat.consumer.index).Attended := by
  obtain ⟨rfl, current⟩ := place
  exact (manned.attached seat.post (List.mem_map_of_mem (List.mem_of_getElem? here))).2 current

/-- Every session that takes up a role has a name, zero being none. -/
def Named : Move → Prop
  | .bind _ session _ _ _ _ => session.pid ≠ 0
  | _ => True

instance : (move : Move) → Decidable (Named move)
  | .bind _ session _ _ _ _ => inferInstanceAs (Decidable (session.pid ≠ 0))
  | .acquire .. | .release .. | .disconnect .. | .produce .. | .consume .. => isTrue trivial

theorem Manned.bound_perform (manned : x.Manned) (founded : x.Founded) (move : Move)
    {a : Handle × Nat} (member : a ∈ x.producers.map ProducerSeat.post) :
    a.2 ≤ (x.perform move).turn a.1.entry ∧
      (a.2 = (x.perform move).turn a.1.entry →
        ((x.perform move).memory.register.title a.1.entry).block = a.1.block ∧
          ((x.perform move).memory.producerOf a.1.entry).pid ≠ 0) := by
  obtain ⟨past, current⟩ := manned.bound a member
  have later := turn_le_perform founded move a.1.entry
  refine ⟨Nat.le_trans past later, fun now => ?_⟩
  have same : (x.perform move).turn a.1.entry = x.turn a.1.entry := by omega
  obtain ⟨block, named⟩ := current (by omega)
  refine ⟨?_, by rw [perform_named founded move same named]; exact named⟩
  rw [← block]
  exact (perform_step founded move).1.block same

theorem Manned.attached_perform (manned : x.Manned) (founded : x.Founded) (move : Move)
    {a : Handle × Nat × Nat} (member : a ∈ x.consumers.map ConsumerSeat.post) :
    a.2.1 ≤ (x.perform move).turn a.1.entry ∧
      (a.2.1 = (x.perform move).turn a.1.entry →
        ((x.perform move).memory.register.title a.1.entry).block = a.1.block ∧
          a.2.2 < ((x.perform move).memory.entries.getD a.1.entry default).slots.size ∧
          ((x.perform move).memory.slotAt a.1.entry a.2.2).Attended) := by
  obtain ⟨past, current⟩ := manned.attached a member
  have later := turn_le_perform founded move a.1.entry
  refine ⟨Nat.le_trans past later, fun now => ?_⟩
  have same : (x.perform move).turn a.1.entry = x.turn a.1.entry := by omega
  obtain ⟨block, inside, attended⟩ := current (by omega)
  have attends := perform_slotwise (S := fun s t => s.Attended → t.Attended)
    Lane.attends_obeys Lane.attends_others (fun _ => id) founded move same
  refine ⟨?_, ?_, attends.slots _ attended⟩
  · rw [← block]
    exact (perform_step founded move).1.block same
  · rw [attends.size]
    exact inside

theorem Manned.of_posts (manned : x.Manned) (founded : x.Founded) (move : Move)
    (producers : (x.perform move).producers.map ProducerSeat.post =
      x.producers.map ProducerSeat.post)
    (consumers : (x.perform move).consumers.map ConsumerSeat.post =
      x.consumers.map ConsumerSeat.post) : (x.perform move).Manned := by
  refine ⟨?_, ?_, ?_, ?_⟩
  · rw [producers]
    exact manned.producers
  · rw [consumers]
    exact manned.readers
  · rw [producers]
    exact fun a member => manned.bound_perform founded move member
  · rw [consumers]
    exact fun a member => manned.attached_perform founded move member

/-- Nobody was bound as the producer of a queue that names none. -/
theorem Manned.unnamed (manned : x.Manned) {i : Nat} (free : (x.memory.producerOf i).pid = 0) :
    ∀ a ∈ x.producers.map ProducerSeat.post, ¬ (a.1.entry = i ∧ a.2 = x.turn i) := by
  rintro a member ⟨rfl, turn⟩
  exact ((manned.bound a member).2 turn).2 free

/-- Nobody was bound as the reader of a slot that is free. -/
theorem Manned.unattended (manned : x.Manned) {i j : Nat}
    (free : ¬ (x.memory.slotAt i j).Attended) :
    ∀ a ∈ x.consumers.map ConsumerSeat.post, ¬ (a.1.entry = i ∧ a.2 = (x.turn i, j)) := by
  rintro a member ⟨rfl, same⟩
  obtain ⟨turn, rfl⟩ := Prod.ext_iff.mp same
  exact free ((manned.attached a member).2 turn).2.2

section Bind

variable {g : Geometry} {session : Session} {name : String} {i : Nat}

/-- A session that was bound as the producer of a queue has its name there. -/
theorem bindProducer_bound (has : x.memory.Has (x.memory.handleAt i)) (session : Session)
    (consumerNodes distribution : List NodeId) :
    let t := x.memory.setQueue (x.memory.handleAt i)
      ((x.memory.queue (x.memory.handleAt i)).bindProducer session consumerNodes distribution).1
    (t.register.title i).block = (x.memory.handleAt i).block ∧
      (t.producerOf i).pid = session.pid := by
  intro t
  have outline := Queue.bindProducer_outline (x.memory.queue (x.memory.handleAt i)) session
    consumerNodes distribution
  constructor
  · rw [show t.register = _ from Segment.register_setQueue has _]
    change (Function.update x.memory.register.title i _ i).block = _
    rw [Function.update_self]
    exact congrArg (fun o => o.title.block) outline
  · rw [Segment.producerOf_setQueue has, if_pos (show i = (x.memory.handleAt i).entry from rfl)]
    exact congrArg (fun o => o.producer.pid) outline

/-- A session that was bound as a reader is attached to its slot. -/
theorem bindConsumer_attached (has : x.memory.Has (x.memory.handleAt i)) {j : Nat}
    (inside : j < (x.memory.queue (x.memory.handleAt i)).consumers)
    (slot : (((x.memory.queue (x.memory.handleAt i)).bindConsumer session name).1.lane j).slot.pid =
      session.pid) :
    let t := x.memory.setQueue (x.memory.handleAt i)
      ((x.memory.queue (x.memory.handleAt i)).bindConsumer session name).1
    (t.register.title i).block = (x.memory.handleAt i).block ∧
      j < (t.entries.getD i default).slots.size ∧ (t.slotAt i j).pid = session.pid := by
  intro t
  have outline := Queue.bindConsumer_outline (x.memory.queue (x.memory.handleAt i)) session name
  have queue : t.queue (x.memory.handleAt i) = _ := has.queue_setQueue _
  refine ⟨?_, ?_, ?_⟩
  · rw [show t.register = x.memory.register from Segment.register_setQueue_same outline]
    rfl
  · change j < (t.queue (x.memory.handleAt i)).consumers
    rw [queue]
    have size := congrArg Outline.slots outline
    change _ = (x.memory.queue (x.memory.handleAt i)).consumers at size
    exact Nat.lt_of_lt_of_le inside (Nat.le_of_eq size.symm)
  · change ((t.queue (x.memory.handleAt i)).lane j).slot.pid = _
    rw [queue]
    exact slot

end Bind

theorem Manned.bind (manned : x.Manned) (founded : x.Founded) (live : Liveness) {session : Session}
    (named : session.pid ≠ 0) (name : String) (consumerNodes distribution : List NodeId)
    (limit : Nat) :
    (x.perform (.bind live session name consumerNodes distribution limit)).Manned := by
  have bound (a) (member) := manned.bound_perform founded
    (.bind live session name consumerNodes distribution limit) (a := a) member
  have attached (a) (member) := manned.attached_perform founded
    (.bind live session name consumerNodes distribution limit) (a := a) member
  simp only [perform, Commons.bind] at bound attached ⊢
  rcases x.memory.bind_roles x.geometry live session name consumerNodes distribution with
    ⟨cause, failed⟩ | ⟨i, -, found, free, made⟩ | ⟨i, found, taken, made⟩
  · simp only [failed] at bound attached ⊢
    exact ⟨manned.producers, manned.readers, bound, attached⟩
  · simp only [made] at bound attached ⊢
    refine ⟨?_, manned.readers, ?_, attached⟩
    · rw [List.map_append, List.pairwise_append]
      refine ⟨manned.producers, List.pairwise_singleton .., ?_⟩
      intro a member b new
      obtain rfl := List.mem_singleton.mp new
      exact manned.unnamed free a member
    · intro a member
      rw [List.map_append, List.mem_append] at member
      rcases member with before | new
      · exact bound a before
      · obtain rfl := List.mem_singleton.mp new
        obtain ⟨block, owner⟩ := bindProducer_bound (serves_found founded found).has session
          consumerNodes distribution
        exact ⟨Nat.le_refl _, fun _ => ⟨block, fun none => named (owner.symm.trans none)⟩⟩
  · rcases Queue.bindConsumer_cases (x.memory.queue (x.memory.handleAt i)) session name with
      ⟨⟨cause, refused⟩, -⟩ | ⟨j, inside, free, accepted, slot, -⟩
    · simp only [made, refused, Except.map] at bound attached ⊢
      exact ⟨manned.producers, manned.readers, bound, attached⟩
    · simp only [made, accepted, Except.map] at bound attached ⊢
      refine ⟨manned.producers, ?_, bound, ?_⟩
      · rw [List.map_append, List.pairwise_append]
        refine ⟨manned.readers, List.pairwise_singleton .., ?_⟩
        intro a member b new
        obtain rfl := List.mem_singleton.mp new
        exact manned.unattended free a member
      · intro a member
        rw [List.map_append, List.mem_append] at member
        rcases member with before | new
        · exact attached a before
        · obtain rfl := List.mem_singleton.mp new
          obtain ⟨block, within, owner⟩ := bindConsumer_attached
            (serves_found founded found).has inside (congrArg Slot.pid slot)
          exact ⟨Nat.le_refl _, fun _ =>
            ⟨block, within, .inl fun none => named (owner.symm.trans none)⟩⟩

/-- Everybody stays at their post, and newcomers find posts of their own. -/
theorem Manned.perform (manned : x.Manned) (founded : x.Founded) {move : Move}
    (named : Named move) : (x.perform move).Manned := by
  cases move with
  | acquire live session name consumers =>
    obtain ⟨producers, readers⟩ := x.acquire_seats live session name consumers
    exact manned.of_posts founded (.acquire live session name consumers) (congrArg _ producers)
      (congrArg _ readers)
  | bind live session name consumerNodes distribution limit =>
    exact manned.bind founded live named name consumerNodes distribution limit
  | release live session name =>
    obtain ⟨producers, readers⟩ := x.release_seats live session name
    exact manned.of_posts founded (.release live session name) (congrArg _ producers)
      (congrArg _ readers)
  | disconnect live session name => exact manned.of_posts founded _ rfl rfl
  | produce k move =>
    obtain ⟨posts, consumers⟩ := x.produce_posts k move
    exact manned.of_posts founded (.produce k move) posts (congrArg _ consumers)
  | consume k move =>
    obtain ⟨posts, producers⟩ := x.consume_posts k move
    exact manned.of_posts founded (.consume k move) (congrArg _ producers) posts

theorem Manned.start (c : Config) (creator : ProcessId) : (start c creator).Manned :=
  ⟨.nil, .nil, nofun, nofun⟩

end Commons

end RecordExchange
