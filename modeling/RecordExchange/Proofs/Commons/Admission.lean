import RecordExchange.Proofs.Commons.Actions
import RecordExchange.Proofs.Commons.Allotment

set_option autoImplicit false

/-!
Who is let in to read.

A session that binds to a queue with a producer reads from the first slot that carries its node.
What a slot carries goes back to a producer that mapped the node to it, or to a session that gave
its claim up before; the number that stands for no node is carried by slots that nobody was given,
and a session under that number is let in there.
-/

namespace RecordExchange

namespace Queue

variable {q : Queue} {session : Session} {name : String} {k : Nat}

/-- A session is let in to the first slot of its node, if nobody reads from it and it is open. -/
theorem bindConsumer_ok_iff :
    (q.bindConsumer session name).2 = .ok k ↔
      q.slotOf? session.node = some k ∧ (q.lane k).slot.pid = 0 ∧ (q.lane k).slot.IsOpen := by
  cases q.bindConsumer_admits session name with
  | refuses cause made reason =>
    rw [made]
    refine ⟨nofun, fun ⟨found, free, _⟩ => ?_⟩
    rcases reason with ⟨none, -⟩ | ⟨i, found', bound, -⟩
    · cases none.symm.trans found
    · obtain rfl := Option.some_inj.mp (found'.symm.trans found)
      exact absurd free bound
  | closes i inside closed cause made found =>
    rw [made]
    refine ⟨nofun, fun ⟨found', _, opened⟩ => ?_⟩
    obtain rfl := Option.some_inj.mp (found.symm.trans found')
    exact absurd opened closed
  | attaches i inside free opened made found =>
    rw [made]
    constructor
    · intro same
      obtain rfl := Except.ok.inj same
      exact ⟨found, free, opened⟩
    · exact fun ⟨found', _, _⟩ => congrArg Except.ok (Option.some_inj.mp (found.symm.trans found'))

theorem bindConsumer_of_none (none : q.slotOf? session.node = none) :
    q.bindConsumer session name = (q, .error (.notAConsumer name session.node)) := by
  simp only [bindConsumer, none]

/-- A session is told that it is no consumer only if no slot carries its node. -/
theorem slotOf?_of_notAConsumer
    (refused : (q.bindConsumer session name).2 = .error (.notAConsumer name session.node)) :
    q.slotOf? session.node = none := by
  cases q.bindConsumer_admits session name with
  | refuses cause made reason =>
    rw [made] at refused
    rcases reason with ⟨none, -⟩ | ⟨i, -, -, bound⟩
    · exact none
    · cases bound.symm.trans (Except.error.inj refused)
  | closes i inside closed cause made found free reason =>
    rw [made] at refused
    cases reason.symm.trans (Except.error.inj refused)
  | attaches i inside free opened made =>
    rw [made] at refused
    cases refused

end Queue

namespace Segment

variable {s : Segment} {g : Geometry} {live : Liveness} {session : Session} {name : String}
  {consumerNodes distribution : List NodeId} {i k : Nat}

section Roles

variable (alive : live.check = .ok ()) (found : s.find? g.maxQueues name = some i)
include alive found

/-- A session becomes the consumer of the slot that the queue lets it in to, where there is a
producer. -/
theorem bind_consumer_iff :
    (∃ reader, (s.bind g live session name consumerNodes distribution).2 = .ok (.consumer reader) ∧
        reader.index = k) ↔
      (s.producerOf i).pid ≠ 0 ∧
        ((s.queue (s.handleAt i)).bindConsumer session name).2 = .ok k := by
  by_cases free : (s.producerOf i).pid = 0
  · rw [bind_vacant alive found free]
    exact ⟨fun ⟨_, made, _⟩ => (nomatch made), fun ⟨taken, _⟩ => absurd free taken⟩
  · rw [bind_taken alive found free]
    cases ((s.queue (s.handleAt i)).bindConsumer session name).2 with
    | error cause => exact ⟨nofun, nofun⟩
    | ok j =>
      constructor
      · rintro ⟨reader, made, rfl⟩
        rw [← Binding.consumer.inj (Except.ok.inj made)]
        exact ⟨free, rfl⟩
      · exact fun ⟨_, same⟩ => ⟨_, rfl, Except.ok.inj same⟩

/-- It is told that it is no consumer, where there is a producer, if no slot carries its node. -/
theorem bind_notAConsumer_iff :
    s.bind g live session name consumerNodes distribution =
        (s, .error (.notAConsumer name session.node)) ↔
      (s.producerOf i).pid ≠ 0 ∧ (s.queue (s.handleAt i)).slotOf? session.node = none := by
  by_cases free : (s.producerOf i).pid = 0
  · rw [bind_vacant alive found free]
    refine ⟨fun refused => ?_, fun ⟨taken, _⟩ => absurd free taken⟩
    cases congrArg Prod.snd refused
  · rw [bind_taken alive found free]
    constructor
    · intro refused
      have answer := congrArg Prod.snd refused
      have told : ((s.queue (s.handleAt i)).bindConsumer session name).2 =
          .error (.notAConsumer name session.node) := by
        cases told : ((s.queue (s.handleAt i)).bindConsumer session name).2 with
        | error cause =>
          rw [told] at answer
          exact congrArg Except.error (Except.error.inj answer)
        | ok j =>
          rw [told] at answer
          cases answer
      exact ⟨free, Queue.slotOf?_of_notAConsumer told⟩
    · rintro ⟨-, nobody⟩
      rw [Queue.bindConsumer_of_none nobody]
      exact Prod.ext (setQueue_queue ..) rfl

end Roles

end Segment

namespace Commons

variable {x : Commons} {moves : List Move} {move : Move} {e k : Nat} {node : NodeId}

/-- A producer that was bound during the run to the queue which the place holds at its end mapped
the node to a slot. -/
inductive HandedOut (x : Commons) (moves : List Move) (e k : Nat) (node : NodeId) : Prop
  | intro (earlier later : List Move) (live : Liveness) (session : Session) (name : String)
      (consumerNodes distribution : List NodeId) (limit : Nat) (p : Producer) (j : Nat)
      (passed : moves = earlier ++ .bind live session name consumerNodes distribution limit :: later)
      (queue : (x.run earlier).turn e = (x.run moves).turn e)
      (bound : ((x.run earlier).memory.bind (x.run earlier).geometry live session name consumerNodes
        distribution).2 = .ok (.producer p))
      (place : p.handle.entry = e) (mentioned : distribution[j]? = some node)
      (mapped : p.mapping[j]? = some (.slot k))

/-- A session of the node that gave its claim up during the run took a slot of the queue which the
place holds at its end. -/
inductive Preseeded (x : Commons) (moves : List Move) (e k : Nat) (node : NodeId) : Prop
  | intro (earlier later : List Move) (live : Liveness) (session : Session) (name : String)
      (passed : moves = earlier ++ .release live session name :: later)
      (queue : (x.run earlier).turn e = (x.run moves).turn e) (own : session.node = node)
      (before : ((x.run earlier).memory.slotAt e k).node ≠ node)
      (after : (((x.run earlier).perform (.release live session name)).memory.slotAt e k).node =
        node)

/-- What a slot carries was handed to it, or it is done since a session gave its claim up. -/
def Accounted (x : Commons) (moves : List Move) (e k : Nat) (slot : Slot) : Prop :=
  x.HandedOut moves e k slot.node ∨ x.Preseeded moves e k slot.node ∧ slot.status = .done

section Concat

variable (same : (x.run (moves ++ [move])).turn e = (x.run moves).turn e)
include same

/-- What was handed out stays so as long as the place holds the queue. -/
theorem HandedOut.concat (handed : x.HandedOut moves e k node) :
    x.HandedOut (moves ++ [move]) e k node := by
  obtain ⟨earlier, later, live, session, name, consumerNodes, distribution, limit, p, j, passed,
    queue, bound, place, mentioned, mapped⟩ := handed
  refine .intro earlier (later ++ [move]) live session name consumerNodes distribution limit p j ?_
    (queue.trans same.symm) bound place mentioned mapped
  rw [passed, List.append_assoc, List.cons_append]

theorem Preseeded.concat (seeded : x.Preseeded moves e k node) :
    x.Preseeded (moves ++ [move]) e k node := by
  obtain ⟨earlier, later, live, session, name, passed, queue, own, before, after⟩ := seeded
  refine .intro earlier (later ++ [move]) live session name ?_ (queue.trans same.symm) own before
    after
  rw [passed, List.append_assoc, List.cons_append]

theorem Accounted.concat {slot after : Slot} (accounted : x.Accounted moves e k slot)
    (proceeds : slot.Proceeds after) (still : after.node = slot.node) :
    x.Accounted (moves ++ [move]) e k after := by
  rw [Accounted, still]
  rcases accounted with handed | ⟨seeded, done⟩
  · exact .inl (handed.concat same)
  · exact .inr ⟨seeded.concat same, proceeds.done_of_done done⟩

end Concat

theorem HandedOut.assigned (handed : x.HandedOut moves e k node) : node ≠ Slot.unassigned := by
  obtain ⟨earlier, later, live, session, name, consumerNodes, distribution, limit, p, j, passed,
    queue, bound, place, mentioned, mapped⟩ := handed
  rcases (x.run earlier).memory.bind_roles (x.run earlier).geometry live session name consumerNodes
      distribution with ⟨cause, failed⟩ | ⟨i, -, -, -, made⟩ | ⟨i, -, -, made⟩
  · rw [failed] at bound
    cases bound
  · rw [made] at bound
    obtain rfl := Binding.producer.inj (Except.ok.inj bound)
    obtain ⟨other, here, assigned⟩ :=
      (Queue.bindProducer_hands _ session consumerNodes distribution).2 j k mapped
    obtain rfl := Option.some_inj.mp (here.symm.trans mentioned)
    exact assigned
  · rw [made] at bound
    dsimp only at bound
    revert bound
    cases (((x.run earlier).memory.queue ((x.run earlier).memory.handleAt i)).bindConsumer session
      name).2 with
    | error cause => exact nofun
    | ok i => exact nofun

theorem node_accounted (c : Config) (creator : ProcessId) (moves : List Move)
    (inside : k < (((start c creator).run moves).memory.entries.getD e default).slots.size)
    (handed : (((start c creator).run moves).memory.slotAt e k).node ≠ Slot.unassigned) :
    (start c creator).Accounted moves e k (((start c creator).run moves).memory.slotAt e k) := by
  -- from the end of the run on: only its last move can hand out what was not handed out before
  induction moves using List.reverseRecOn with
  | nil =>
    have none := Segment.create_slots c creator e
    exact absurd (Nat.lt_of_lt_of_eq inside none) (Nat.not_lt_zero k)
  | append_singleton moves move ih =>
    have founded : ((start c creator).run moves).Founded := (Founded.start c creator).run moves
    have last : (start c creator).run (moves ++ [move]) =
        ((start c creator).run moves).perform move := run_append ..
    rw [last] at inside handed ⊢
    generalize reached : (start c creator).run moves = x at *
    by_cases same : (x.perform move).turn e = x.turn e
    · have queue : ((start c creator).run (moves ++ [move])).turn e =
          ((start c creator).run moves).turn e := by
        rw [last, reached]
        exact same
      have lives := perform_livesOn founded move same
      rw [lives.size] at inside
      have kept (still : ((x.perform move).memory.slotAt e k).node = (x.memory.slotAt e k).node) :
          (start c creator).Accounted (moves ++ [move]) e k ((x.perform move).memory.slotAt e k) :=
        (ih inside (still ▸ handed)).concat queue (lives.slots k) still
      rcases perform_nodes founded move same with nodes |
        ⟨live, session, name, consumerNodes, distribution, limit, rfl, alive, found, free⟩ |
        ⟨live, session, name, rfl, alive, found⟩
      · exact kept (nodes.slots k)
      · have slot := takesUp_slot founded alive found free session consumerNodes distribution limit k
        rcases (Queue.bindProducer_hands (x.memory.queue (x.memory.handleAt e)) session consumerNodes
          distribution).1 k inside with still | ⟨spare, j, mapped, here⟩
        · exact kept ((congrArg Slot.node slot).trans still)
        · left
          rw [← slot] at here
          subst reached
          exact .intro moves [] live session name consumerNodes distribution limit _ j rfl queue.symm
            (congrArg Prod.snd (Segment.bind_vacant alive found free)) rfl here mapped
      · have slot := givesUp_slot founded alive found session k
        rcases Queue.giveUp_node (x.memory.queue (x.memory.handleAt e)) session inside with
          still | ⟨-, none, spare, given, done⟩
        · exact kept ((congrArg Slot.node slot).trans still)
        · right
          rw [← slot] at given done
          subst reached
          refine ⟨.intro moves [] live session name rfl queue.symm given.symm ?_ rfl, done⟩
          rw [given]
          exact Queue.slotOf?_eq_none.mp none k inside
    · obtain ⟨present, b, name, consumers, ringLen, -, made⟩ := laidOut_formatted founded same
      refine absurd ?_ handed
      rw [made] at inside ⊢
      exact (Segment.format_vacant present b name consumers ringLen).slots k inside

/-- Who is let in to read, at any time: a session that binds becomes the consumer of a slot exactly
if the queue has a producer and the slot is the first that carries the session's node, is open and
has no reader. The slot was handed to that node exactly if the node is not the number that stands
for none. A session whose node was handed no slot, and that took none when it gave a claim up, is
told that it is no consumer, and nothing changes, exactly if there is a producer and the node is not
that number, or no slot is left that carries it. -/
theorem reader_admitted_iff (c : Config) (creator : ProcessId) (moves : List Move) (live : Liveness)
    (session : Session) (name : String) (consumerNodes distribution : List NodeId) (i : Nat)
    (alive : live.check = .ok ())
    (found : ((start c creator).run moves).memory.find?
      ((start c creator).run moves).geometry.maxQueues name = some i) :
    let x := (start c creator).run moves
    let n := (x.memory.entries.getD i default).slots.size
    let bound := x.memory.bind x.geometry live session name consumerNodes distribution
    (∀ k, (∃ reader, bound.2 = .ok (.consumer reader) ∧ reader.index = k) ↔
        (x.memory.producerOf i).pid ≠ 0 ∧ k < n ∧ (x.memory.slotAt i k).node = session.node ∧
          (∀ j, j < k → (x.memory.slotAt i j).node ≠ session.node) ∧
          (x.memory.slotAt i k).pid = 0 ∧
          ((x.memory.slotAt i k).status = .active ∨ (x.memory.slotAt i k).status = .eof)) ∧
      (∀ reader, bound.2 = .ok (.consumer reader) →
        ((start c creator).HandedOut moves i reader.index session.node ↔
          session.node ≠ Slot.unassigned)) ∧
      ((∀ k, ¬ (start c creator).HandedOut moves i k session.node ∧
          ¬ (start c creator).Preseeded moves i k session.node) →
        (bound = (x.memory, .error (.notAConsumer name session.node)) ↔
          (x.memory.producerOf i).pid ≠ 0 ∧ (session.node ≠ Slot.unassigned ∨
            ∀ k, k < n → (x.memory.slotAt i k).node ≠ Slot.unassigned))) := by
  intro x n bound
  have accounted {k : Nat} (inside : k < n)
      (handed : (x.memory.slotAt i k).node ≠ Slot.unassigned) :
      (start c creator).Accounted moves i k (x.memory.slotAt i k) :=
    node_accounted c creator moves inside handed
  have admitted (k : Nat) :
      (∃ reader, bound.2 = .ok (.consumer reader) ∧ reader.index = k) ↔ _ :=
    Segment.bind_consumer_iff alive found
  have refused : bound = (x.memory, .error (.notAConsumer name session.node)) ↔ _ :=
    Segment.bind_notAConsumer_iff alive found
  refine ⟨fun k => ?_, fun reader made => ?_, fun never => ?_⟩
  · rw [admitted, Queue.bindConsumer_ok_iff, Queue.slotOf?_eq_some]
    constructor
    · rintro ⟨taken, ⟨inside, own, first⟩, vacant, opened⟩
      exact ⟨taken, inside, own, first, vacant, opened⟩
    · rintro ⟨taken, inside, own, first, vacant, opened⟩
      exact ⟨taken, ⟨inside, own, first⟩, vacant, opened⟩
  · obtain ⟨mine, -, opened⟩ :=
      Queue.bindConsumer_ok_iff.mp ((admitted reader.index).mp ⟨reader, made, rfl⟩).2
    obtain ⟨inside, own, -⟩ := Queue.slotOf?_eq_some.mp mine
    refine ⟨HandedOut.assigned, fun assigned => ?_⟩
    rw [← own] at assigned ⊢
    rcases accounted inside assigned with handed | ⟨-, done⟩
    · exact handed
    · exact absurd opened (Slot.not_isOpen_of_done done)
  · rw [refused, Queue.slotOf?_eq_none]
    refine and_congr_right fun _ => ⟨fun nobody => ?_, fun spare k inside own => ?_⟩
    · by_cases assigned : session.node = Slot.unassigned
      · exact .inr fun k inside own => nobody k inside (own.trans assigned.symm)
      · exact .inl assigned
    · by_cases assigned : session.node = Slot.unassigned
      · exact (spare.resolve_left (not_not.mpr assigned)) k inside (own.trans assigned)
      · rw [← own] at assigned never
        rcases accounted inside assigned with handed | ⟨seeded, -⟩
        · exact (never k).1 handed
        · exact (never k).2 seeded

def spareSlot : List Move :=
  [.acquire undisturbed ⟨100, 0⟩ "rows" 2, .acquire undisturbed ⟨101, Slot.unassigned⟩ "rows" 2,
    .bind undisturbed ⟨100, 0⟩ "rows" [1] [0, 1] 64]

theorem reader_admitted_iff_spareSlot :
    let x := (start wider 1).run spareSlot
    x.memory.find? x.geometry.maxQueues "rows" = some 0 ∧
      ∃ reader, (x.memory.bind x.geometry undisturbed ⟨102, 1⟩ "rows" [1] [0, 1]).2 =
          .ok (.consumer reader) ∧
        reader.index = 0 ∧ (start wider 1).HandedOut spareSlot 0 0 1 := by
  intro x
  have found : x.memory.find? x.geometry.maxQueues "rows" = some 0 := by decide +kernel
  obtain ⟨admits, handed, -⟩ := reader_admitted_iff wider 1 spareSlot undisturbed ⟨102, 1⟩ "rows"
    [1] [0, 1] 0 rfl found
  have first : (x.memory.producerOf 0).pid ≠ 0 ∧ 0 < (x.memory.entries.getD 0 default).slots.size ∧
      (x.memory.slotAt 0 0).node = 1 ∧ (x.memory.slotAt 0 0).pid = 0 ∧
      (x.memory.slotAt 0 0).status = .active := by decide +kernel
  obtain ⟨producer, inside, own, vacant, active⟩ := first
  obtain ⟨reader, made, index⟩ := (admits 0).mpr
    ⟨producer, inside, own, fun j before => absurd before (Nat.not_lt_zero j), vacant, .inl active⟩
  have given := (handed reader made).mpr (by decide)
  rw [index] at given
  exact ⟨found, reader, made, index, given⟩

/-- The session whose node is the number that stands for none is let in to the other slot, which
nobody was given. -/
theorem unassigned_node_admitted :
    let x := (start wider 1).run spareSlot
    (x.memory.producerOf 0).pid ≠ 0 ∧
      (∃ reader, (x.memory.bind x.geometry undisturbed ⟨101, Slot.unassigned⟩ "rows" [1] [0, 1]).2 =
          .ok (.consumer reader) ∧ reader.index = 1) ∧
      ∀ k, ¬ (start wider 1).HandedOut spareSlot 0 k Slot.unassigned ∧
        ¬ (start wider 1).Preseeded spareSlot 0 k Slot.unassigned := by
  intro x
  have found : x.memory.find? x.geometry.maxQueues "rows" = some 0 := by decide +kernel
  have taken : (x.memory.producerOf 0).pid ≠ 0 := by decide +kernel
  have slot : (x.memory.queue (x.memory.handleAt 0)).slotOf? Slot.unassigned = some 1 ∧
      ((x.memory.queue (x.memory.handleAt 0)).lane 1).slot.pid = 0 ∧
      ((x.memory.queue (x.memory.handleAt 0)).lane 1).slot.status = .active := by decide +kernel
  have admitted : ((x.memory.queue (x.memory.handleAt 0)).bindConsumer ⟨101, Slot.unassigned⟩
      "rows").2 = .ok 1 :=
    Queue.bindConsumer_ok_iff.mpr ⟨slot.1, slot.2.1, .inl slot.2.2⟩
  refine ⟨taken, (Segment.bind_consumer_iff rfl found).mpr ⟨taken, admitted⟩,
    fun k => ⟨fun handed => handed.assigned rfl, ?_⟩⟩
  · rintro ⟨earlier, later, live, session, name, passed, -, -, -, -⟩
    have member : Move.release live session name ∈ spareSlot := by
      rw [passed]
      exact List.mem_append_right _ List.mem_cons_self
    simp only [spareSlot, List.mem_cons, reduceCtorEq, List.not_mem_nil, or_self] at member

end Commons

end RecordExchange
