import RecordExchange.Proofs.Commons.Registry
import RecordExchange.Proofs.Commons.Seats
import RecordExchange.Proofs.Queue.Allotment

set_option autoImplicit false

/-!
How the slots of a queue are parted among the nodes.

The first session that binds to a queue finds slots that nobody has, and parts them among the nodes
of its distribution. Nobody hands them out again, and who gives a claim up takes a slot only if its
node has none: no node ever has two.
-/

namespace RecordExchange

namespace Segment

variable {s t : Segment} {h : Handle} {e : Nat}

/-- The queue in a place has no producer, and none of its slots was handed out. -/
structure Vacant (s : Segment) (e : Nat) : Prop where
  producer : s.producerOf e = ⟨0, Slot.unassigned⟩
  slots : ∀ k, k < (s.entries.getD e default).slots.size →
    (s.slotAt e k).node = Slot.unassigned

/-- A queue that is laid out has no producer, and nobody has its slots. -/
theorem format_vacant (present : e < s.entries.size) (b : Nat) (name : String)
    (consumers ringLen : Nat) :
    (s.setQueueAt e b ⟨(s.queueAt e b).entry.format name consumers ringLen b,
      (s.queueAt e b).sync.assign e consumers⟩).Vacant e := by
  have entry : (s.setQueueAt e b ⟨(s.queueAt e b).entry.format name consumers ringLen b,
      (s.queueAt e b).sync.assign e consumers⟩).entries.getD e default =
        (s.queueAt e b).entry.format name consumers ringLen b := by
    rw [setQueueAt_entry present]
  refine ⟨?_, ?_⟩
  · rw [producerOf, entry]
    rfl
  · intro k inside
    rw [entry, Entry.format, Array.size_ofFn] at inside
    rw [slotAt, entry, Entry.format_slot _ name ringLen b inside]
    rfl

/-- No two slots of the queue in a place were handed to one node, and none to its producer's. -/
structure Parted (s : Segment) (e : Nat) : Prop where
  distinct : ∀ j k, j < (s.entries.getD e default).slots.size →
    k < (s.entries.getD e default).slots.size → j ≠ k →
      (s.slotAt e j).node = (s.slotAt e k).node → (s.slotAt e j).node = Slot.unassigned
  foreign : ∀ k, k < (s.entries.getD e default).slots.size →
    (s.slotAt e k).node = (s.producerOf e).node → (s.producerOf e).node = Slot.unassigned

theorem Vacant.of_slotwise (vacant : s.Vacant e) (producer : t.producerOf e = s.producerOf e)
    (nodes : s.Slotwise (fun before after => after.node = before.node) t e) : t.Vacant e := by
  refine ⟨producer.trans vacant.producer, fun k inside => ?_⟩
  rw [nodes.size] at inside
  exact (nodes.slots k).trans (vacant.slots k inside)

theorem Parted.of_slotwise (parted : s.Parted e) (producer : t.producerOf e = s.producerOf e)
    (nodes : s.Slotwise (fun before after => after.node = before.node) t e) : t.Parted e := by
  refine ⟨?_, ?_⟩
  · intro j k first second
    rw [nodes.size] at first second
    rw [nodes.slots j, nodes.slots k]
    exact parted.distinct j k first second
  · intro k inside
    rw [nodes.size] at inside
    rw [nodes.slots k, producer]
    exact parted.foreign k inside

end Segment

namespace Commons

variable {x : Commons} {move : Move} {e : Nat}

/-- A session gives its claim on the queue of a place up. -/
def GivesUp (x : Commons) (move : Move) (e : Nat) : Prop :=
  ∃ live session name, move = .release live session name ∧ live.check = .ok () ∧
    x.memory.find? x.geometry.maxQueues name = some e

/-- A session that takes up the producer's role puts its queue back and has a seat. -/
theorem bind_takesUp {live : Liveness} {session : Session} {name : String}
    (alive : live.check = .ok ()) (found : x.memory.find? x.geometry.maxQueues name = some e)
    (free : (x.memory.producerOf e).pid = 0) (consumerNodes distribution : List NodeId)
    (limit : Nat) :
    x.perform (.bind live session name consumerNodes distribution limit) =
      { x with
        memory := x.memory.setQueue (x.memory.handleAt e)
          ((x.memory.queue (x.memory.handleAt e)).bindProducer session consumerNodes distribution).1
        producers := x.producers ++ [⟨Producer.start (x.memory.handleAt e) session
          ((x.memory.queue (x.memory.handleAt e)).bindProducer session consumerNodes distribution).2
          ((x.memory.queue (x.memory.handleAt e)).bindProducer session consumerNodes
            distribution).1.consumers, limit, .bound, x.turn e⟩] } := by
  simp only [perform, bind, Segment.bind_vacant alive found free]
  rfl

/-- No session has bound as a producer to the queue that a place holds. -/
def Unbound (x : Commons) (e : Nat) : Prop :=
  ∀ seat ∈ x.producers, seat.producer.handle.entry = e → seat.turn ≠ x.turn e

/-- Whoever moves, everybody who was bound as a producer stays at the post. -/
theorem perform_posts (x : Commons) (move : Move) :
    x.producers.map ProducerSeat.post <+: (x.perform move).producers.map ProducerSeat.post := by
  have same {seats : List ProducerSeat} (kept : seats = x.producers) :
      x.producers.map ProducerSeat.post <+: seats.map ProducerSeat.post := kept ▸ List.prefix_rfl
  cases move with
  | acquire live session name consumers =>
    exact same (x.acquire_seats live session name consumers).1
  | bind live session name consumerNodes distribution limit =>
    simp only [perform, bind]
    split
    · rw [List.map_append]
      exact List.prefix_append ..
    · exact List.prefix_rfl
    · exact List.prefix_rfl
  | release live session name => exact same (x.release_seats live session name).1
  | disconnect live session name => exact List.prefix_rfl
  | produce k move =>
    rw [perform, (x.produce_posts k move).1]
  | consume k move => exact same (x.consume_posts k move).2

theorem Unbound.before (unbound : (x.perform move).Unbound e)
    (same : (x.perform move).turn e = x.turn e) : x.Unbound e := by
  intro seat member entry turn
  have post := (x.perform_posts move).subset (List.mem_map_of_mem (f := ProducerSeat.post) member)
  obtain ⟨later, there, kept⟩ := List.mem_map.mp post
  have handle : later.producer.handle = seat.producer.handle := congrArg Prod.fst kept
  have turn' : later.turn = seat.turn := congrArg Prod.snd kept
  refine unbound later there ?_ ?_
  · rw [handle]
    exact entry
  · rw [turn', same]
    exact turn

theorem TakesUp.not_unbound (takes : x.TakesUp move e)
    (same : (x.perform move).turn e = x.turn e) : ¬ (x.perform move).Unbound e := by
  obtain ⟨live, session, name, consumerNodes, distribution, limit, rfl, alive, found, free⟩ := takes
  intro unbound
  rw [Unbound, same, bind_takesUp alive found free] at unbound
  exact unbound _ (List.mem_append_right _ (List.mem_singleton_self _)) rfl rfl

section Moves

variable (founded : x.Founded)
include founded

/-- As long as a place holds its queue, the slots stay with their nodes, unless a session takes up
the producer's role or gives its claim up. -/
theorem perform_nodes (move : Move) (same : (x.perform move).turn e = x.turn e) :
    x.memory.Slotwise (fun before after => after.node = before.node) (x.perform move).memory e ∨
      x.TakesUp move e ∨ x.GivesUp move e := by
  have reflexive (slot : Slot) : slot.node = slot.node := rfl
  cases move with
  | acquire live session name consumers =>
    exact .inl (acquire_slotwise reflexive founded live session name consumers same)
  | bind live session name consumerNodes distribution limit =>
    rw [perform, bind_memory]
    rcases x.memory.bind_roles x.geometry live session name consumerNodes distribution with
      ⟨cause, failed⟩ | ⟨i, alive, found, free, bound⟩ | ⟨i, found, taken, bound⟩
    · rw [failed]
      exact .inl (.of_same reflexive rfl)
    · by_cases here : e = i
      · subst here
        exact .inr (.inl
          ⟨live, session, name, consumerNodes, distribution, limit, rfl, alive, found, free⟩)
      · left
        rw [bound]
        exact .of_same reflexive (congrArg Entry.slots (Segment.setQueueAt_entry_other here))
    · left
      have put := Segment.Changes.setQueue (R := Lane.KeepsNode) (serves_found founded found).has
        (congrArg Outline.slots (Queue.bindConsumer_outline _ session name))
        (Queue.bindConsumer_keepsNode _ session name)
      rw [bound]
      exact put.slotwise reflexive e
  | release live session name =>
    rw [perform, release_memory]
    cases alive : live.check with
    | error cause =>
      simp only [Segment.release, alive]
      exact .inl (.of_same reflexive rfl)
    | ok _ =>
      cases found : x.memory.find? x.geometry.maxQueues name with
      | none =>
        simp only [Segment.release, alive, found]
        exact .inl (.of_same reflexive rfl)
      | some i =>
        by_cases here : e = i
        · subst here
          exact .inr (.inr ⟨live, session, name, rfl, alive, found⟩)
        · left
          refine .of_same reflexive ?_
          rw [Segment.release_found alive found, Segment.dropReference_slots]
          exact congrArg Entry.slots (Segment.setQueueAt_entry_other here)
  | disconnect live session name =>
    left
    obtain ⟨h, changes⟩ := disconnect_changes (R := Lane.KeepsNode) founded (fun _ => rfl)
      (fun _ session _ inside => .of_holder (Queue.disconnect_holder _ session inside)) live session
      name
    exact changes.slotwise reflexive e
  | produce k move =>
    exact .inl (produce_slotwise Lane.keepsNode_obeys reflexive founded k move e)
  | consume k move =>
    exact .inl (consume_slotwise Lane.keepsNode_readers reflexive founded k move e)

theorem takesUp_slot {live : Liveness} {name : String} (alive : live.check = .ok ())
    (found : x.memory.find? x.geometry.maxQueues name = some e)
    (free : (x.memory.producerOf e).pid = 0) (session : Session)
    (consumerNodes distribution : List NodeId) (limit k : Nat) :
    (x.perform (.bind live session name consumerNodes distribution limit)).memory.slotAt e k =
      (((x.memory.queue (x.memory.handleAt e)).bindProducer session consumerNodes
        distribution).1.lane k).slot := by
  have put := (serves_found founded found).has.queue_setQueue
    ((x.memory.queue (x.memory.handleAt e)).bindProducer session consumerNodes distribution).1
  rw [bind_takesUp alive found free]
  exact congrArg (fun q : Queue => (q.lane k).slot) put

theorem givesUp_slot {live : Liveness} {name : String} (alive : live.check = .ok ())
    (found : x.memory.find? x.geometry.maxQueues name = some e) (session : Session) (k : Nat) :
    (x.perform (.release live session name)).memory.slotAt e k =
      (((x.memory.queue (x.memory.handleAt e)).giveUp session).lane k).slot := by
  have put := (serves_found founded found).has.queue_setQueue
    ((x.memory.queue (x.memory.handleAt e)).giveUp session)
  rw [perform, release_memory, Segment.release_found alive found, Segment.slotAt,
    Segment.dropReference_slots]
  exact congrArg (fun q : Queue => (q.lane k).slot) put

/-- No slot of a queue that has a producer is handed to a second node, or to the producer's. -/
theorem perform_parted (parted : x.memory.Parted e) (taken : (x.memory.producerOf e).pid ≠ 0)
    (move : Move) (same : (x.perform move).turn e = x.turn e) :
    (x.perform move).memory.Parted e := by
  have producer := perform_named founded move same taken
  have size := (perform_livesOn founded move same).size
  rcases perform_nodes founded move same with nodes | ⟨_, _, _, _, _, _, _, _, _, free⟩ |
    ⟨live, session, name, rfl, alive, found⟩
  · exact parted.of_slotwise producer nodes
  · exact absurd free taken
  · -- one slot may get a node, but one that had none, and not the producer's
    let q := x.memory.queue (x.memory.handleAt e)
    have node (k : Nat) (inside : k < q.consumers) :=
      q.giveUp_node session (i := k) inside
    have slot := givesUp_slot founded alive found session
    refine ⟨?_, ?_⟩
    · intro j k first second other
      rw [size] at first second
      rw [slot j, slot k]
      rcases node j first with stays | ⟨-, none, spare, given, -⟩
      · rcases node k second with stays' | ⟨-, none, -, given, -⟩
        · rw [stays, stays']
          exact parted.distinct j k first second other
        · intro both
          exact absurd (stays.symm.trans (both.trans given))
            (Queue.slotOf?_eq_none.mp none j first)
      · rcases node k second with stays | ⟨-, -, spare', -, -⟩
        · intro both
          exact absurd (stays.symm.trans (both.symm.trans given))
            (Queue.slotOf?_eq_none.mp none k second)
        · exact absurd (Option.some_inj.mp (spare.symm.trans spare')) other
    · intro k inside
      rw [size] at inside
      rw [slot k, producer]
      rcases node k inside with stays | ⟨foreign, -, -, given, -⟩
      · rw [stays]
        exact parted.foreign k inside
      · intro own
        exact absurd (own.symm.trans given) foreign.2

/-- What is parted stays so as long as the place holds the queue. -/
theorem run_parted (parted : x.memory.Parted e) (taken : (x.memory.producerOf e).pid ≠ 0)
    (moves : List Move) (same : (x.run moves).turn e = x.turn e) :
    (x.run moves).memory.Parted e ∧
      (x.run moves).memory.producerOf e = x.memory.producerOf e ∧
      ((x.run moves).memory.entries.getD e default).slots.size =
        (x.memory.entries.getD e default).slots.size := by
  refine run_turn_induction (motive := fun y => y.memory.Parted e ∧
    y.memory.producerOf e = x.memory.producerOf e ∧
    (y.memory.entries.getD e default).slots.size = (x.memory.entries.getD e default).slots.size)
    founded e ⟨parted, rfl, rfl⟩ ?_ moves same
  rintro y move founded now ⟨parted, producer, size⟩
  have taken : (y.memory.producerOf e).pid ≠ 0 := by
    rw [producer]
    exact taken
  exact ⟨perform_parted founded parted taken move now,
    (perform_named founded move now taken).trans producer,
    (perform_livesOn founded move now).size.trans size⟩

theorem takesUp_parted {live : Liveness} {session : Session} {name : String}
    (alive : live.check = .ok ()) (found : x.memory.find? x.geometry.maxQueues name = some e)
    (vacant : x.memory.Vacant e) (consumerNodes : List NodeId) {distribution : List NodeId}
    (assigned : ∀ node ∈ distribution, node ≠ Slot.unassigned) (limit : Nat) :
    let y := x.perform (.bind live session name consumerNodes distribution limit)
    y.memory.Parted e ∧ y.memory.producerOf e = session ∧
      (y.memory.entries.getD e default).slots.size =
        (x.memory.entries.getD e default).slots.size := by
  intro y
  have free : (x.memory.producerOf e).pid = 0 := congrArg Session.pid vacant.producer
  obtain ⟨allots, -, -⟩ := Queue.bindProducer_allots (q := x.memory.queue (x.memory.handleAt e))
    vacant.slots session consumerNodes assigned
  have slot := takesUp_slot founded alive found free session consumerNodes distribution limit
  have outline := Queue.bindProducer_outline (x.memory.queue (x.memory.handleAt e)) session
    consumerNodes distribution
  have producer : y.memory.producerOf e = session := by
    simp only [y, bind_takesUp alive found free]
    rw [Segment.producerOf_setQueue (serves_found founded found).has,
      if_pos (show e = (x.memory.handleAt e).entry from rfl)]
    exact congrArg Outline.producer outline
  have size := (perform_livesOn founded (e := e)
    (.bind live session name consumerNodes distribution limit)
    (x.perform_turn (fun _ _ _ _ => Move.noConfusion) e)).size
  have consumers : ((x.memory.queue (x.memory.handleAt e)).bindProducer session consumerNodes
      distribution).1.consumers = (x.memory.entries.getD e default).slots.size :=
    congrArg Outline.slots outline
  refine ⟨⟨?_, ?_⟩, producer, size⟩
  · intro j k first second other
    rw [size, ← consumers] at first second
    rw [slot j, slot k]
    exact allots.unassigned_of_eq first second other
  · intro k inside
    rw [size, ← consumers] at inside
    rw [slot k, producer]
    intro own
    by_contra handed
    have member := List.mem_of_mem_take (allots.mem_of_node inside (own ▸ handed))
    exact (Queue.mem_wanted.mp member).2.1 own

/-- A queue that nobody was bound to as a producer is vacant, if it was before the move. -/
theorem perform_vacant
    (vacant : 0 < x.turn e → x.Unbound e → x.memory.Vacant e) (move : Move)
    (laid : 0 < (x.perform move).turn e) (unbound : (x.perform move).Unbound e) :
    (x.perform move).memory.Vacant e := by
  by_cases same : (x.perform move).turn e = x.turn e
  · have before := vacant (same ▸ laid) (unbound.before same)
    rcases perform_producerOf founded move same with producer | takes
    · rcases perform_nodes founded move same with nodes | takes |
        ⟨live, session, name, rfl, alive, found⟩
      · exact before.of_slotwise producer nodes
      · exact absurd unbound (takes.not_unbound same)
      · have nobody : (x.memory.queue (x.memory.handleAt e)).entry.producerNode =
            Slot.unassigned := congrArg Session.node before.producer
        refine before.of_slotwise producer
          ⟨(perform_livesOn founded (.release live session name) same).size, fun k => ?_⟩
        rw [givesUp_slot founded alive found, Queue.giveUp, if_pos (.inl nobody)]
        rfl
    · exact absurd unbound (takes.not_unbound same)
  · obtain ⟨present, b, name, consumers, ringLen, -, made⟩ := laidOut_formatted founded same
    rw [made]
    exact Segment.format_vacant present b name consumers ringLen

end Moves

/-- A queue that no session has bound to as a producer is vacant, whatever went before. -/
theorem vacant_run (c : Config) (creator : ProcessId) (moves : List Move) {e : Nat}
    (laid : 0 < ((start c creator).run moves).turn e)
    (unbound : ((start c creator).run moves).Unbound e) :
    ((start c creator).run moves).memory.Vacant e := by
  have kept := run_induction (x := start c creator)
    (motive := fun y => y.Founded ∧ ∀ e, 0 < y.turn e → y.Unbound e → y.memory.Vacant e)
    ⟨.start c creator, fun e laid => absurd laid (Nat.lt_irrefl 0)⟩
    (fun y move before => ⟨before.1.perform move, fun e =>
      perform_vacant before.1 (before.2 e) move⟩) moves
  exact kept.2 e laid unbound

theorem turn_pos_of_found (c : Config) (creator : ProcessId) (moves : List Move) {name : String}
    {i : Nat} (found : ((start c creator).run moves).memory.find?
      ((start c creator).run moves).geometry.maxQueues name = some i) :
    0 < ((start c creator).run moves).turn i := by
  have vacant := start_vacant c creator
  have titled := titled_run (Founded.start c creator) (fun i live => absurd live (vacant i)) moves
  obtain ⟨live, -⟩ := Title.isNamed_iff.mp (Segment.find?_some found).2
  obtain ⟨title, earlier, laid, -⟩ := titled i live
  have laid : ((start c creator).run moves).laidOut i = title :: earlier := laid
  rw [turn, laid]
  exact Nat.succ_pos _

/-- The first session that binds to a queue of `n` slots maps each node of its distribution: its own
to itself; a consumer, where it is mentioned first, to the slot whose number is that of the
consumers mentioned before, if there is one; and anything else to none. The slots carry the nodes
that were mapped to them, and no others do; and as long as the queue is there, no two slots carry
one node, and none the producer's, unless that is what a slot without a node carries. -/
theorem bind_partitions (c : Config) (creator : ProcessId) (moves : List Move) (live : Liveness)
    (session : Session) (name : String) (consumerNodes distribution : List NodeId) (limit i : Nat)
    (alive : live.check = .ok ()) (named : session.pid ≠ 0)
    (assigned : ∀ node ∈ distribution, node ≠ Slot.unassigned)
    (found : ((start c creator).run moves).memory.find?
      ((start c creator).run moves).geometry.maxQueues name = some i)
    (unbound : ((start c creator).run moves).Unbound i) :
    let x := (start c creator).run moves
    let y := x.perform (.bind live session name consumerNodes distribution limit)
    let n := (x.memory.entries.getD i default).slots.size
    let goesTo (j : Nat) (node : NodeId) (k : Nat) : Prop :=
      node ≠ session.node ∧ node ∈ consumerNodes ∧ node ∉ distribution.take j ∧ k < n ∧
        k = ((distribution.take j).toFinset.filter fun other =>
          other ≠ session.node ∧ other ∈ consumerNodes).card
    ∃ p, (x.memory.bind x.geometry live session name consumerNodes distribution).2 =
        .ok (.producer p) ∧
      p.mapping.length = distribution.length ∧
      (∀ j node item, distribution[j]? = some node → p.mapping[j]? = some item →
        (item = .myself ↔ node = session.node) ∧ (∀ k, item = .slot k ↔ goesTo j node k) ∧
          (item = .absent ↔ node ≠ session.node ∧ ∀ k, ¬ goesTo j node k)) ∧
      (∀ j k : Nat, p.mapping[j]? = some (.slot k) →
        distribution[j]? = some (y.memory.slotAt i k).node) ∧
      (∀ k, k < n → .slot k ∉ p.mapping → (y.memory.slotAt i k).node = Slot.unassigned) ∧
      ∀ later, (y.run later).turn i = y.turn i →
        (∀ j k, j < n → k < n → j ≠ k →
          ((y.run later).memory.slotAt i j).node = ((y.run later).memory.slotAt i k).node →
            ((y.run later).memory.slotAt i j).node = Slot.unassigned) ∧
          (session.node ≠ Slot.unassigned →
            ∀ k, k < n → ((y.run later).memory.slotAt i k).node ≠ session.node) := by
  intro x y n goesTo
  have founded : x.Founded := (Founded.start c creator).run moves
  have vacant : x.memory.Vacant i :=
    vacant_run c creator moves (turn_pos_of_found c creator moves found) unbound
  have free : (x.memory.producerOf i).pid = 0 := congrArg Session.pid vacant.producer
  let after := (x.memory.queue (x.memory.handleAt i)).bindProducer session consumerNodes distribution
  obtain ⟨allots, length, shares⟩ :=
    Queue.bindProducer_allots (q := x.memory.queue (x.memory.handleAt i)) vacant.slots session
      consumerNodes assigned
  have outline : after.1.outline = _ := Queue.bindProducer_outline ..
  have size : after.1.consumers = n := congrArg Outline.slots outline
  have slot (k : Nat) : y.memory.slotAt i k = (after.1.lane k).slot :=
    takesUp_slot founded alive found free session consumerNodes distribution limit k
  have mapped {j : Nat} {node : NodeId} (here : distribution[j]? = some node) :
      after.2[j]? = some (Queue.share n session.node consumerNodes (distribution.take j) node) :=
    shares j node here
  have allots : after.1.Allots
      ((Queue.wanted session.node consumerNodes distribution).take after.1.consumers) := by
    rw [size]
    exact allots
  obtain ⟨parted, producer, slots⟩ :=
    takesUp_parted founded alive found vacant consumerNodes assigned limit
  refine ⟨_, congrArg Prod.snd (Segment.bind_vacant alive found free), length, ?_, ?_, ?_, ?_⟩
  · intro j node item here given
    obtain rfl := Option.some_inj.mp (given.symm.trans (mapped here))
    refine ⟨Queue.share_eq_myself, fun k => Queue.share_eq_slot, ?_⟩
    rw [Queue.share_eq_absent]
    exact and_congr_right fun _ => forall_congr' fun k => not_congr Queue.share_eq_slot
  · intro j k given
    have inside : j < distribution.length := by
      rw [← length]
      exact (List.getElem?_eq_some_iff.mp given).1
    have here : distribution[j]? = some distribution[j] := List.getElem?_eq_getElem inside
    have shared := Option.some_inj.mp ((mapped here).symm.trans given)
    rw [slot, (allots.node_of_share here (size ▸ shared)).2]
    exact here
  · intro k inside spare
    rw [slot]
    by_contra handed
    have front := allots.lt_of_node (size ▸ inside) handed
    rw [List.length_take] at front
    obtain ⟨j, node, here, shared⟩ := Queue.exists_share (n := n)
      (lt_of_lt_of_le front (min_le_right ..)) inside
    exact spare (List.mem_of_getElem? ((mapped here).trans (congrArg some shared)))
  · intro later same
    have taken : (y.memory.producerOf i).pid ≠ 0 := by
      rw [producer]
      exact named
    obtain ⟨still, producer', slots'⟩ :=
      run_parted (founded.perform _) parted taken later same
    have size' : ((y.run later).memory.entries.getD i default).slots.size = n :=
      slots'.trans slots
    refine ⟨fun j k first second => ?_, fun real k inside same => real ?_⟩
    · exact still.distinct j k (size' ▸ first) (size' ▸ second)
    · have foreign := still.foreign k (size' ▸ inside)
      rw [producer', producer] at foreign
      exact foreign same

def wider : Config := { narrow with queueSize := 290 }

/-- A producer whose own node is the one that unassigned slots carry leaves a slot unassigned: the
slot carries the producer's node. -/
theorem spare_slot_carries_producer_node :
    let x := (start wider 1).run [.acquire undisturbed ⟨100, Slot.unassigned⟩ "rows" 2]
    let y := x.perform (.bind undisturbed ⟨100, Slot.unassigned⟩ "rows" [1] [1] 64)
    x.memory.find? x.geometry.maxQueues "rows" = some 0 ∧ x.producers = [] ∧
      y.producers.map (fun p => (p.producer.session, p.producer.mapping)) =
        [(⟨100, Slot.unassigned⟩, [.slot 0])] ∧
      (y.memory.entries.getD 0 default).slots.size = 2 ∧ (y.memory.slotAt 0 0).node = 1 ∧
      (y.memory.slotAt 0 1).node = Slot.unassigned := by
  decide +kernel

/-- A producer with two slots for three consumers, one of which is mentioned twice, and a node that
reads nothing. -/
theorem bind_partitions_wider :
    let x := (start wider 1).run [.acquire undisturbed ⟨100, 0⟩ "rows" 2]
    let y := x.perform (.bind undisturbed ⟨100, 0⟩ "rows" [1, 2, 3] [5, 1, 0, 1, 2, 3] 64)
    x.Unbound 0 ∧
      ∃ p, (x.memory.bind x.geometry undisturbed ⟨100, 0⟩ "rows" [1, 2, 3] [5, 1, 0, 1, 2, 3]).2 =
          .ok (.producer p) ∧
        p.mapping[4]? = some (.slot 1) ∧ p.mapping[5]? = some .absent ∧
        (y.memory.slotAt 0 1).node = 2 := by
  intro x y
  have unbound : x.Unbound 0 := fun seat member => absurd member List.not_mem_nil
  have found : x.memory.find? x.geometry.maxQueues "rows" = some 0 := by decide +kernel
  have slots : (x.memory.entries.getD 0 default).slots.size = 2 := by decide +kernel
  obtain ⟨p, bound, length, items, carried, -, -⟩ :=
    bind_partitions wider 1 [.acquire undisturbed ⟨100, 0⟩ "rows" 2] undisturbed ⟨100, 0⟩ "rows"
      [1, 2, 3] [5, 1, 0, 1, 2, 3] 64 0 rfl (by decide) (by decide) found unbound
  obtain ⟨_, fourth⟩ : ∃ item, p.mapping[4]? = some item :=
    ⟨_, List.getElem?_eq_getElem (by rw [length]; decide)⟩
  obtain ⟨_, fifth⟩ : ∃ item, p.mapping[5]? = some item :=
    ⟨_, List.getElem?_eq_getElem (by rw [length]; decide)⟩
  have second := ((items 4 2 _ rfl fourth).2.1 1).mpr
    ⟨by decide, by decide, by decide, Nat.lt_of_lt_of_eq (by decide) slots.symm, by decide⟩
  rw [second] at fourth
  refine ⟨unbound, p, bound, fourth, ?_, Option.some_inj.mp (carried 4 1 fourth).symm⟩
  rw [fifth, (items 5 3 _ rfl fifth).2.2.mpr ⟨by decide, fun k goes => ?_⟩]
  obtain ⟨-, -, -, inside, number⟩ := goes
  exact absurd (number ▸ Nat.lt_of_lt_of_eq inside slots) (by decide)

end Commons

end RecordExchange
