import RecordExchange.Proofs.Commons.Stages
import RecordExchange.Proofs.Commons.Unbinding
import RecordExchange.Proofs.Commons.Visits
import RecordExchange.Proofs.Queue.Ownership

set_option autoImplicit false

/-!
Whose name the latch of a producer carries.

A producer puts its name on the latch of its queue when it is bound and takes it away with the step
that lets go of the queue. Nobody else touches the name, as long as sessions give up no more claims
than they made and so the queue stays where its producer was bound to it.
-/

namespace RecordExchange

namespace Segment

variable {s t : Segment} {h : Handle}

/-- The process that waits on the producer's latch in a block. -/
def ownerAt (s : Segment) (b : Nat) : ProcessId := (s.blocks.getD b default).producer.owner

theorem setQueue_ownerAt (has : s.Has h) (q : Queue) (b : Nat) :
    (s.setQueue h q).ownerAt b = if b = h.block then q.owner else s.ownerAt b := by
  rw [ownerAt, setQueue, setQueueAt, getD_setIfInBounds]
  by_cases here : b = h.block
  · rw [if_pos here, if_pos ⟨here.symm, here ▸ has.block⟩]
    rfl
  · rw [if_neg here, if_neg fun found => here found.1.symm]
    rfl

theorem dropReference_ownerAt (s : Segment) (h : Handle) (b : Nat) :
    (s.dropReference h).ownerAt b = s.ownerAt b :=
  congrArg Latch.owner (dropReference_producer s h b)

/-- From `s` to `t` the producers' latches stay with their processes. -/
def KeepsOwners (s t : Segment) : Prop := ∀ b, t.ownerAt b = s.ownerAt b

theorem KeepsOwners.refl (s : Segment) : s.KeepsOwners s := fun _ => rfl

theorem KeepsOwners.setQueue (has : s.Has h) {q : Queue} (same : q.owner = (s.queue h).owner) :
    s.KeepsOwners (s.setQueue h q) := by
  intro b
  rw [setQueue_ownerAt has]
  split
  · rename_i here
    rw [same, here]
    rfl
  · rfl

end Segment

theorem Producer.closeStep_owners (p : Producer) {s : Segment} (has : s.Has p.handle)
    (failed : Bool) (live : Liveness) (point : ClosePoint)
    (goesOn : ∀ result, (p.closeStep s failed live point).2.2 ≠ .ended result) :
    s.KeepsOwners (p.closeStep s failed live point).2.1 := by
  have put {q : Queue} (same : q.owner = (s.queue p.handle).owner) :
      s.KeepsOwners (s.setQueue p.handle q) := .setQueue has same
  match point with
  | .run .flush =>
    have handle : (p.finish (s.queue p.handle)).1.handle = p.handle := finish_handle ..
    cases passed : (p.finish (s.queue p.handle)).2.2 with
    | error cause =>
      rw [closeStep_flush_failed (finish_eq passed)] at goesOn
      exact absurd rfl (goesOn _)
    | ok pending =>
      have kept := put (p.finish_owner (s.queue p.handle))
      cases pending with
      | zero =>
        rw [closeStep_flush_done (finish_eq passed), handle]
        exact kept
      | succ pending =>
        rw [closeStep_flush_pending (finish_eq passed), handle]
        exact kept
  | .woken .flush => exact put rfl
  | .timedOut .flush => exact put (resetNotConnected_owner _)
  | .run .sweep =>
    have swept := Queue.mapLanes_owner (s.queue p.handle) (sweepLane failed)
    by_cases awaited : (!failed && (s.queue p.handle).lanes.any isAwaited) = true
    · rw [closeStep_sweep_waits awaited]
      exact put swept
    · rw [closeStep_sweep_done awaited]
      exact put swept
  | .woken .sweep => exact .refl s
  | .timedOut .sweep => exact put (resetNotConnected_owner _)
  | .settle =>
    cases checked : live.check with
    | error cause =>
      rw [closeStep_settle_failed checked] at goesOn
      exact absurd rfl (goesOn _)
    | ok _ =>
      by_cases running : (s.queue p.handle).lanes.any isRunning = true
      · rw [closeStep_settle_running checked running]
        exact .refl s
      · rw [closeStep_settle_over checked running] at goesOn
        exact absurd rfl (goesOn _)

namespace ProducerSeat

theorem call_owner (p : Producer) (limit : Nat) (q : Queue) (c : ProducerCall) :
    (call p limit q c).2.owner = q.owner := by
  cases c with
  | write i record => exact p.write_owner limit q i record
  | finish => exact p.finish_owner q
  | drain =>
    rw [call, Producer.drainStep_queue]
    exact p.finish_owner q
  | waited => rfl
  | canPause => exact Producer.canPause_owner q
  | reset => exact p.reset_owner q
  | resetNotConnected => exact Producer.resetNotConnected_owner q

theorem step_owners (seat : ProducerSeat) {s : Segment} (has : s.Has seat.producer.handle)
    (move : ProducerMove) (goesOn : seat.ends s move = none) :
    s.KeepsOwners (seat.step s move).2 := by
  obtain ⟨p, limit, stand, turn⟩ := seat
  have still : s.KeepsOwners s := .refl s
  cases move with
  | call c =>
    cases stand with
    | bound => exact .setQueue has (call_owner p limit _ c)
    | _ => exact still
  | unbind failed =>
    cases stand with
    | bound => exact still
    | _ => exact still
  | close live =>
    cases stand with
    | closing failed point =>
      refine p.closeStep_owners has failed live point fun result ended => ?_
      simp only [ends, ended] at goesOn
      cases goesOn
    | _ => exact still
  | wake timely =>
    cases stand with
    | asleep failed pass => exact still
    | _ => exact still
  | giveUp live =>
    cases stand with
    | asleep failed pass =>
      simp only [ends, step] at goesOn ⊢
      cases checked : live.check with
      | ok _ => exact still
      | error cause =>
        rw [checked] at goesOn
        cases goesOn
    | _ => exact still

end ProducerSeat

theorem ConsumerSeat.step_owner (seat : ConsumerSeat) (q : Queue) (move : ConsumerMove) :
    (seat.step q move).2.owner = q.owner := by
  have read (canWait : Bool) (point : ReadPoint) : (seat.read canWait point q).2.owner = q.owner :=
    seat.consumer.readStep_owner canWait point q
  unfold step
  split
  · split
    · exact read ..
    · exact read ..
    · split
      · rfl
      · rfl
    · exact Consumer.reset_owner ..
    · simp only [Consumer.drop]
      split
      · rfl
      · exact Consumer.reset_owner ..
    · rfl
  · rfl

/-- A session that visits puts its name on the producer's latch only if it takes up that role. -/
theorem Queue.visited_owner (q : Queue) {move : Move}
    (other : ∀ known session name consumerNodes distribution limit,
      move = .bind known session name consumerNodes distribution limit → q.entry.producerPid ≠ 0) :
    (q.visited move).owner = q.owner := by
  cases move with
  | bind known session name consumerNodes distribution limit =>
    simp only [visited, other _ _ _ _ _ _ rfl, ↓reduceIte]
    exact q.bindConsumer_owner session name
  | release known session name => exact q.giveUp_owner session
  | disconnect known session name =>
    simp only [visited]
    split
    · rfl
    · exact q.disconnect_owner session
  | acquire => rfl
  | produce => rfl
  | consume => rfl

namespace Commons

variable {x : Commons} {e : Nat} {move : Move}

theorem laidOut_seats (laid : (x.perform move).turn e ≠ x.turn e) :
    (x.perform move).producers = x.producers ∧ (x.perform move).consumers = x.consumers := by
  by_cases claim : ∃ known session name consumers, move = .acquire known session name consumers
  · obtain ⟨known, session, name, consumers, rfl⟩ := claim
    exact x.acquire_seats known session name consumers
  · refine absurd (x.perform_turn ?_ e) laid
    exact fun known session name consumers same => claim ⟨known, session, name, consumers, same⟩

/-- A producer that does not come to the end of its call stands as it stood, and nobody new is bound
where no session takes up the role. -/
theorem producerAt_before (founded : x.Founded) (same : (x.perform move).turn e = x.turn e)
    (quiet : ¬ x.TakesUp move e)
    (goesOn : ∀ k own seat, move = .produce k own → x.producers[k]? = some seat →
      seat.producer.handle.entry = e → seat.ends x.memory own = none) {k : Nat}
    {after : ProducerSeat} (there : (x.perform move).producerAt e k = some after) :
    ∃ seat, x.producerAt e k = some seat ∧ after.isOpen = seat.isOpen ∧
      after.producer.session = seat.producer.session := by
  by_cases produces : ∃ j own, move = .produce j own
  · obtain ⟨j, own, rfl⟩ := produces
    cases here : x.producers[j]? with
    | none =>
      have still : x.perform (.produce j own) = x := by simp only [Commons.perform, produce, here]
      rw [still] at there
      exact ⟨after, there, rfl, rfl⟩
    | some seat =>
      rw [Commons.perform, produce_producerAt here] at there
      split at there
      · rename_i mine
        subst mine
        rw [Option.ite_none_right_eq_some] at there
        obtain ⟨place, stepped⟩ := there
        obtain rfl := Option.some_inj.mp stepped
        have session := congrArg (fun charge => charge.2.1) (seat.step_charge x.memory own)
        refine ⟨seat, producerAt_eq_some.mpr ⟨here, place⟩, ?_, session⟩
        have closes := seat.step_isOpen x.memory own
        rw [goesOn k own seat rfl here place.1, Option.isSome_none] at closes
        exact Bool.eq_iff_iff.mpr (not_iff_not.mp (by simpa using closes))
      · exact ⟨after, there, rfl, rfl⟩
  · have other : ∀ j own, move ≠ .produce j own := fun j own same => produces ⟨j, own, same⟩
    obtain ⟨here, entry, turn⟩ := producerAt_eq_some.mp there
    have old (before : x.producers[k]? = some after) : x.producerAt e k = some after :=
      producerAt_eq_some.mpr ⟨before, entry, turn.trans same⟩
    rcases x.perform_charges move with charges | ⟨i, takes⟩
    · rcases producers_perform founded other with kept | ⟨p, limit, listed, -, -, -⟩
      · exact ⟨after, old (kept ▸ here), rfl, rfl⟩
      · have length := congrArg List.length charges
        rw [listed] at length
        simp only [List.length_map, List.length_append, List.length_singleton] at length
        omega
    · obtain ⟨new, listed, place, -, -⟩ := takesUp_charged founded takes
      rw [listed, List.getElem?_append] at here
      split at here
      · exact ⟨after, old here, rfl, rfl⟩
      · obtain rfl := List.mem_singleton.mp (List.mem_of_getElem? here)
        obtain rfl : i = e := place.symm.trans entry
        exact absurd takes quiet

section Steps

variable (founded : x.Founded) (paired : x.ledger.Paired)
include founded paired

/-- A queue that is laid out has latches of its own, whoever used them before: nobody's. -/
theorem laidOut_idle (laid : (x.perform move).turn e ≠ x.turn e) :
    ((x.perform move).memory.blocks.getD e default).producer = Latch.idle ∧
      ∀ i, i < ((x.perform move).memory.entries.getD e default).slots.size →
        ((x.perform move).memory.laneAt e i).slot.pid = 0 ∧
          ((x.perform move).memory.laneAt e i).latch = Latch.idle := by
  have titles := (perform_paired founded paired move).titles e
  obtain ⟨present, b, name, consumers, ringLen, -, made⟩ := laidOut_formatted founded laid
  have entry : (x.perform move).memory.entries.getD e default =
      (x.memory.queueAt e b).entry.format name consumers ringLen b := by
    rw [made, Segment.setQueueAt_entry present]
  -- the block that serves the queue is the one of the same number
  have title : (x.perform move).ledger.register.title e =
      ((x.perform move).memory.entries.getD e default).title := rfl
  rw [title, entry] at titles
  obtain rfl : b = e := titles rfl
  have within : b < x.memory.blocks.size := by
    rw [founded.built.blocks, ← founded.built.entries]
    exact present
  have block : (x.perform move).memory.blocks.getD b default =
      (x.memory.queueAt b b).sync.assign b consumers := by
    rw [made, Segment.setQueueAt_block within]
  refine ⟨congrArg SyncBlock.producer block, fun i inside => ?_⟩
  rw [entry, Entry.format, Array.size_ofFn] at inside
  have slot : ((x.perform move).memory.laneAt b i).slot.pid = 0 := by
    rw [Segment.laneAt, Segment.slotAt, entry, Entry.format_slot _ name ringLen b inside]
    rfl
  refine ⟨slot, ?_⟩
  rw [Segment.laneAt, block]
  simp only [SyncBlock.assign, Array.getD_eq_getD_getElem?, Array.getElem?_mapIdx]
  cases (x.memory.queueAt b b).sync.consumers[i]? with
  | none => rfl
  | some latch => exact if_pos inside

/-- As long as a place holds its queue, the name on its producer's latch changes only with a session
that takes the role up, or with the last step of a producer that was bound there. -/
theorem perform_owner (balanced : x.ledger.withoutConsumers.Balanced)
    (same : (x.perform move).turn e = x.turn e) (quiet : ¬ x.TakesUp move e)
    (goesOn : ∀ k own seat, move = .produce k own → x.producers[k]? = some seat →
      seat.producer.handle.entry = e → seat.ends x.memory own = none) :
    (x.perform move).memory.ownerAt e = x.memory.ownerAt e := by
  have visits {known : Liveness} {session : Session} {name : String}
      (visit : move.visit? = some (known, session, name))
      (other : ∀ known session name consumers, move ≠ .acquire known session name consumers) :
      (x.perform move).memory.ownerAt e = x.memory.ownerAt e := by
    by_cases hits : known.check = .ok () ∧ ∃ i, x.memory.find? x.geometry.maxQueues name = some i
    · obtain ⟨alive, i, found⟩ := hits
      have has := (serves_found founded found).has
      have block := found_paired paired found
      have put : (x.memory.setQueue (x.memory.handleAt i)
          ((x.memory.queue (x.memory.handleAt i)).visited move)).ownerAt e = x.memory.ownerAt e := by
        rw [Segment.setQueue_ownerAt has, block]
        split
        · rename_i here
          obtain rfl : e = i := here
          refine (Queue.visited_owner _ ?_).trans ?_
          · rintro known' session' name' consumerNodes distribution limit rfl free
            cases visit
            exact quiet ⟨known, session, name, consumerNodes, distribution, limit, rfl, alive, found,
              free⟩
          · exact congrArg x.memory.ownerAt block
        · rfl
      rcases visit_memory visit other alive found with made | made
      · rw [made, put]
      · rw [made, Segment.dropReference_ownerAt, put]
    · rw [visit_missed visit other fun alive => ?_]
      cases found : x.memory.find? x.geometry.maxQueues name with
      | none => rfl
      | some i => exact absurd ⟨alive, i, found⟩ hits
  cases move with
  | acquire known session name consumers =>
    have kept := (acquire_place paired founded known session name consumers same).2
    exact congrArg (fun b : SyncBlock => b.producer.owner) kept
  | bind => exact visits rfl fun _ _ _ _ => Move.noConfusion
  | release => exact visits rfl fun _ _ _ _ => Move.noConfusion
  | disconnect => exact visits rfl fun _ _ _ _ => Move.noConfusion
  | produce k own =>
    cases here : x.producers[k]? with
    | none => rw [perform, produce_none here]
    | some seat =>
      have held : seat.holding ∈ x.ledger.producers :=
        List.mem_map_of_mem (List.mem_of_getElem? here)
      by_cases place : seat.producer.handle.entry = e
      · have has := (serves_producer founded (List.mem_of_getElem? here)).has
        have kept := seat.step_owners has own (goesOn k own seat rfl here place) e
        simp only [perform, produce, here]
        exact kept
      · have through : x.through (.produce k own) = some (seat.producer.handle, seat.turn) := by
          simp only [Commons.through, here, Option.map_some]
        have block := paired.producers _ held
        have spares := (through_spares founded balanced through).blocks e
          fun here => place (block.symm.trans here.symm)
        exact congrArg (fun b : SyncBlock => b.producer.owner) spares
  | consume k own =>
    cases here : x.consumers[k]? with
    | none => rw [perform, consume_none here]
    | some seat =>
      have has := (serves_consumer founded (List.mem_of_getElem? here)).has
      simp only [perform, consume, here]
      exact Segment.KeepsOwners.setQueue has (seat.step_owner _ own) e

/-- The latch of the producer of a place names the producer that was bound to the queue there as
long as it has not let go, and nobody else. -/
structure Owned (x : Commons) (e : Nat) : Prop where
  bound : ∀ k seat, x.producerAt e k = some seat →
    x.memory.ownerAt e = if seat.isOpen then seat.producer.session.pid else 0
  vacant : x.Unbound e → x.memory.ownerAt e = 0

theorem takesUp_owned (manned : x.Manned) (takes : x.TakesUp move e) :
    (x.perform move).Owned e := by
  have same : (x.perform move).turn e = x.turn e := by
    obtain ⟨_, _, _, _, _, _, rfl, -⟩ := id takes
    exact x.perform_turn (fun _ _ _ _ => Move.noConfusion) e
  obtain ⟨known, session, name, consumerNodes, distribution, limit, rfl, alive, found, free⟩ :=
    id takes
  have block : e = (x.memory.handleAt e).block := (found_paired paired found).symm
  have owner : (x.perform (.bind known session name consumerNodes distribution
      limit)).memory.ownerAt e = session.pid := by
    rw [bind_takesUp alive found free]
    refine (Segment.setQueue_ownerAt (serves_found founded found).has _ e).trans ?_
    rw [if_pos block, Queue.owner, Queue.bindProducer_sync]
    rfl
  refine ⟨fun k seat there => ?_, fun unbound => absurd unbound (takes.not_unbound same)⟩
  obtain ⟨here, entry, turn⟩ := producerAt_eq_some.mp there
  rw [bind_takesUp alive found free] at here
  rw [List.getElem?_append] at here
  split at here
  · exact absurd free (manned.bound_at here ⟨entry, turn.trans same⟩).2
  · obtain rfl := List.mem_singleton.mp (List.mem_of_getElem? here)
    exact owner

theorem ends_owned (balanced : x.ledger.withoutConsumers.Balanced) (manned : x.Manned)
    (tended : x.Tended) {k : Nat} {own : ProducerMove} {seat : ProducerSeat}
    (here : x.producers[k]? = some seat) (ending : (seat.ends x.memory own).isSome = true) :
    (x.perform (.produce k own)).Owned seat.producer.handle.entry := by
  obtain ⟨⟨failed, result⟩, ends⟩ := Option.isSome_iff_exists.mp ending
  have member : seat ∈ x.producers := List.mem_of_getElem? here
  have held : seat.holding ∈ x.ledger.producers := List.mem_map_of_mem member
  have opened : seat.isOpen = true := by
    by_contra closed
    rw [ProducerSeat.ends_closed (eq_false_of_ne_true closed)] at ends
    cases ends
  have current := (balanced.producers _ held opened).turn
  have serves := serves_producer founded member
  have disowned := (((tended seat member).2 current).ends serves ends).2.disowned
  have block : seat.producer.handle.block = seat.producer.handle.entry := paired.producers _ held
  have owner : (x.perform (.produce k own)).memory.ownerAt seat.producer.handle.entry = 0 := by
    simp only [perform, produce, here]
    rw [← block]
    exact disowned
  refine ⟨fun j after there => ?_, fun _ => owner⟩
  rw [owner]
  rw [perform, produce_producerAt here] at there
  split at there
  · rw [if_pos ⟨rfl, current.symm⟩] at there
    obtain rfl := Option.some_inj.mp there
    rw [(seat.step_isOpen x.memory own).mpr (.inr ending)]
    rfl
  · rename_i elsewhere
    exact absurd (manned.producer_alone there
      (producerAt_eq_some.mpr ⟨here, rfl, current.symm⟩)) elsewhere

theorem laidOut_owned (manned : x.Manned) (laid : (x.perform move).turn e ≠ x.turn e) :
    (x.perform move).Owned e := by
  have owner : (x.perform move).memory.ownerAt e = 0 :=
    congrArg Latch.owner (laidOut_idle founded paired laid).1
  refine ⟨fun k seat there => ?_, fun _ => owner⟩
  obtain ⟨here, rfl, turn⟩ := producerAt_eq_some.mp there
  rw [(laidOut_seats laid).1] at here
  have past := manned.bound_past here
  have later := turn_le_perform founded move seat.producer.handle.entry
  omega

theorem Owned.perform (owned : x.Owned e) (balanced : x.ledger.withoutConsumers.Balanced)
    (manned : x.Manned) (tended : x.Tended) (move : Move) : (x.perform move).Owned e := by
  by_cases same : (x.perform move).turn e = x.turn e
  · by_cases takes : x.TakesUp move e
    · exact takesUp_owned founded paired manned takes
    · by_cases lets : ∃ k own seat, move = .produce k own ∧ x.producers[k]? = some seat ∧
          seat.producer.handle.entry = e ∧ (seat.ends x.memory own).isSome = true
      · obtain ⟨k, own, seat, rfl, here, rfl, ending⟩ := lets
        exact ends_owned founded paired balanced manned tended here ending
      · have goesOn : ∀ k own seat, move = .produce k own → x.producers[k]? = some seat →
            seat.producer.handle.entry = e → seat.ends x.memory own = none :=
          fun k own seat made here place => Option.not_isSome_iff_eq_none.mp fun ending =>
            lets ⟨k, own, seat, made, here, place, ending⟩
        have owner := perform_owner founded paired balanced same takes goesOn
        refine ⟨fun k after there => ?_, fun unbound => ?_⟩
        · obtain ⟨seat, before, opened, session⟩ := producerAt_before founded same takes goesOn there
          rw [owner, owned.bound k seat before, opened, session]
        · rw [owner]
          exact owned.vacant (unbound.before same)
  · exact laidOut_owned founded paired manned same

end Steps

theorem Owned.run (owned : x.Owned e) (founded : x.Founded) (paired : x.ledger.Paired)
    (balanced : x.ledger.withoutConsumers.Balanced) (manned : x.Manned) (tended : x.Tended)
    (moves : List Move) (named : Along (fun _ move => Named move) x moves)
    (modest : Along Modest x moves) : (x.run moves).Owned e := by
  induction moves generalizing x with
  | nil => exact owned
  | cons move rest ih =>
    exact ih (owned.perform founded paired balanced manned tended move) (founded.perform move)
      (perform_paired founded paired move) (modest_perform founded balanced modest.1)
      (manned.perform founded named.1) (tended.perform founded move) named.2 modest.2

theorem owned_run (c : Config) (creator : ProcessId) (moves : List Move)
    (named : Along (fun _ move => Named move) (start c creator) moves)
    (modest : Along Modest (start c creator) moves) (e : Nat) :
    ((start c creator).run moves).Owned e := by
  have owner : (start c creator).memory.ownerAt e = 0 := by
    change (((Array.replicate c.maxQueues (SyncBlock.free c.maxConsumers)).getD e
      default).producer).owner = 0
    rw [Array.getD_eq_getD_getElem?, Array.getElem?_replicate]
    split
    · rfl
    · rfl
  have owned : (start c creator).Owned e := ⟨fun k seat there => (nomatch there), fun _ => owner⟩
  have balanced : (start c creator).ledger.withoutConsumers.Balanced := start_balanced c creator
  exact owned.run (.start c creator) (paired_from_start c creator []) balanced (.start c creator)
    nofun moves named modest

end Commons

end RecordExchange
