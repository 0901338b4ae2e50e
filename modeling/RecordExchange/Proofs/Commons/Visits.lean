import RecordExchange.Proofs.Commons.Allotment
import RecordExchange.Proofs.Commons.Handles
import RecordExchange.Proofs.Queue.Visits

set_option autoImplicit false

/-!
What the visits of sessions leave of a queue.

A session that claims a queue, binds, gives its claim up or reports a reader's end looks the queue
up by its name. It changes the slots of its own node there and those that nobody was given, and
nothing else; most often not even these.
-/

namespace RecordExchange

namespace Segment

variable {s t : Segment} {h : Handle} {R : Lane → Lane → Prop} {i : Nat}

/-- A slot of the queue in a place, with the latch in the block of the same number. -/
def laneAt (s : Segment) (e i : Nat) : Lane :=
  ⟨s.slotAt e i, (s.blocks.getD e default).consumers.getD i default⟩

theorem lane_eq_laneAt (s : Segment) (paired : h.block = h.entry) (i : Nat) :
    s.lane h i = s.laneAt h.entry i := by
  simp only [lane, queue, queueAt, Queue.lane, laneAt, slotAt, paired]

theorem setQueue_laneAt (has : s.Has h) (paired : h.block = h.entry) (q : Queue) (e i : Nat) :
    (s.setQueue h q).laneAt e i = if e = h.entry then q.lane i else s.laneAt e i := by
  by_cases here : e = h.entry
  · subst here
    rw [if_pos rfl, ← lane_eq_laneAt _ paired, lane, has.queue_setQueue]
  · have spares := setQueue_spares s h q
    rw [if_neg here]
    simp only [laneAt, slotAt, spares.entries e here, spares.blocks e (paired ▸ here)]

theorem dropReference_laneAt (s : Segment) (h : Handle) (e i : Nat) :
    (s.dropReference h).laneAt e i = s.laneAt e i := by
  simp only [laneAt, slotAt, dropReference_slots, dropReference_latches]

/-- Where lanes change at one handle only, those of every place change so. -/
theorem Changes.laneAt (changes : s.Changes R t h) (reflexive : ∀ l, R l l)
    (paired : h.block = h.entry) {e : Nat}
    (inside : i < (s.entries.getD e default).slots.size) : R (s.laneAt e i) (t.laneAt e i) := by
  by_cases here : e = h.entry
  · subst here
    rw [← lane_eq_laneAt s paired, ← lane_eq_laneAt t paired]
    exact changes.own i inside
  · have same : t.laneAt e i = s.laneAt e i := by
      simp only [Segment.laneAt, slotAt, changes.slots e here, changes.latches e (paired ▸ here)]
    rw [same]
    exact reflexive _

end Segment

/-- What a session makes of the slots and latches of a queue that it finds. -/
def Queue.visited (q : Queue) : Move → Queue
  | .bind _ session name consumerNodes distribution _ =>
    if q.entry.producerPid = 0 then (q.bindProducer session consumerNodes distribution).1
    else (q.bindConsumer session name).1
  | .release _ session _ => q.giveUp session
  | .disconnect _ session _ => if q.entry.producerPid = 0 then q else q.disconnect session
  | _ => q

/-- What a session knows that looks a queue up, who it is, and the queue's name. -/
def Move.visit? : Move → Option (Liveness × Session × String)
  | .acquire known session name _ => some (known, session, name)
  | .bind known session name _ _ _ => some (known, session, name)
  | .release known session name => some (known, session, name)
  | .disconnect known session name => some (known, session, name)
  | .produce .. => none
  | .consume .. => none

theorem Queue.visited_foreign {q : Queue} (wired : q.Wired) {move : Move} {known : Liveness}
    {session : Session} {name : String} (visit : move.visit? = some (known, session, name)) {i : Nat}
    (inside : i < q.consumers) (foreign : (q.lane i).slot.node ≠ session.node)
    (assigned : (q.lane i).slot.node ≠ Slot.unassigned) :
    (q.visited move).lane i = q.lane i := by
  cases move with
  | acquire => rfl
  | bind _ session' name' consumerNodes distribution limit =>
    cases visit
    simp only [visited]
    split
    · exact bindProducer_foreign q session consumerNodes distribution assigned
    · exact bindConsumer_foreign q name foreign
  | release =>
    cases visit
    exact giveUp_foreign wired inside foreign assigned
  | disconnect =>
    cases visit
    simp only [visited]
    split
    · rfl
    · exact disconnect_foreign wired inside foreign
  | produce => cases visit
  | consume => cases visit

/-- A place is laid out only while there is no queue in it. -/
theorem Ledger.Step.laidOut_free {l after : Ledger} {move : Move} (step : Ledger.Step l move after)
    {e : Nat} (laid : (after.laidOut e).length ≠ (l.laidOut e).length) :
    (l.register.title e).live = false := by
  cases step with
  | @create _ _ name _ i b valid place =>
    by_cases here : e = i
    · rw [here]
      exact place
    · exact absurd (congrArg List.length (Function.update_of_ne here ..)) laid
  | _ => exact absurd rfl laid

def ProducerSeat.charge (seat : ProducerSeat) : Handle × Session × Nat :=
  (seat.producer.handle, seat.producer.session, seat.turn)

theorem ProducerSeat.step_charge (seat : ProducerSeat) (s : Segment) (move : ProducerMove) :
    (seat.step s move).1.charge = seat.charge := by
  have kept : (seat.step s move).1.holding.handle = seat.holding.handle ∧
      (seat.step s move).1.holding.session = seat.holding.session ∧
      (seat.step s move).1.holding.turn = seat.holding.turn := by
    rcases seat.step_cases s move with ⟨same, -⟩ | ⟨-, closed, -⟩
    · rw [same]
      exact ⟨rfl, rfl, rfl⟩
    · rw [closed]
      exact ⟨rfl, rfl, rfl⟩
  exact Prod.ext kept.1 (Prod.ext kept.2.1 kept.2.2)

namespace Commons

variable {x : Commons} {e : Nat}

/-- What a session makes of the memory that finds a queue, but for a claim. -/
theorem visit_memory {move : Move} {known : Liveness} {session : Session} {name : String} {i : Nat}
    (visit : move.visit? = some (known, session, name))
    (other : ∀ known session name consumers, move ≠ .acquire known session name consumers)
    (alive : known.check = .ok ()) (found : x.memory.find? x.geometry.maxQueues name = some i) :
    let h := x.memory.handleAt i
    (x.perform move).memory = x.memory.setQueue h ((x.memory.queue h).visited move) ∨
      (x.perform move).memory =
        (x.memory.setQueue h ((x.memory.queue h).visited move)).dropReference h := by
  intro h
  cases move with
  | acquire => exact (other _ _ _ _ rfl).elim
  | bind _ _ _ consumerNodes distribution limit =>
    cases visit
    left
    rw [perform, bind_memory]
    by_cases free : (x.memory.producerOf i).pid = 0
    · rw [Segment.bind_vacant alive found free]
      exact congrArg (x.memory.setQueue h) (if_pos free).symm
    · rw [Segment.bind_taken alive found free]
      exact congrArg (x.memory.setQueue h) (if_neg free).symm
  | release =>
    cases visit
    right
    rw [perform, release_memory, Segment.release_found alive found]
    rfl
  | disconnect =>
    cases visit
    left
    simp only [perform, Segment.disconnectConsumer, alive, found, Queue.visited]
    split
    · exact (Segment.setQueue_queue ..).symm
    · rfl
  | produce => cases visit
  | consume => cases visit

/-- A session that gives up or finds nothing leaves the memory as it is, but for a claim. -/
theorem visit_missed {move : Move} {known : Liveness} {session : Session} {name : String}
    (visit : move.visit? = some (known, session, name))
    (other : ∀ known session name consumers, move ≠ .acquire known session name consumers)
    (missed : known.check = .ok () → x.memory.find? x.geometry.maxQueues name = none) :
    (x.perform move).memory = x.memory := by
  have cases : (∃ cause, known.check = .error cause) ∨
      known.check = .ok () ∧ x.memory.find? x.geometry.maxQueues name = none := by
    cases alive : known.check with
    | error cause => exact .inl ⟨cause, rfl⟩
    | ok _ => exact .inr ⟨rfl, missed alive⟩
  cases move with
  | acquire => exact (other _ _ _ _ rfl).elim
  | bind =>
    cases visit
    obtain ⟨cause, failed⟩ := Segment.bind_missed missed session _ _
    rw [perform, bind_memory, failed]
  | release =>
    cases visit
    rw [perform, release_memory]
    rcases cases with ⟨cause, stopped⟩ | ⟨alive, none⟩
    · simp only [Segment.release, stopped]
    · simp only [Segment.release, alive, none]
  | disconnect =>
    cases visit
    rcases cases with ⟨cause, stopped⟩ | ⟨alive, none⟩
    · simp only [perform, Segment.disconnectConsumer, stopped]
    · simp only [perform, Segment.disconnectConsumer, alive, none]
  | produce => cases visit
  | consume => cases visit

section Lanes

variable (paired : x.ledger.Paired)
include paired

theorem found_paired {name : String} {i : Nat}
    (found : x.memory.find? x.geometry.maxQueues name = some i) :
    (x.memory.handleAt i).block = (x.memory.handleAt i).entry :=
  paired.titles i (Title.isNamed_iff.mp (Segment.find?_some found).2).1

variable (founded : x.Founded)
include founded

theorem setQueue_found {name : String} {i : Nat}
    (found : x.memory.find? x.geometry.maxQueues name = some i) (q : Queue) (j : Nat) :
    (x.memory.setQueue (x.memory.handleAt i) q).laneAt e j =
      if e = i then q.lane j else x.memory.laneAt e j :=
  Segment.setQueue_laneAt (serves_found founded found).has (found_paired paired found) q e j

/-- A claim leaves the slots and the latches of a place as they are, unless it lays it out. -/
theorem acquire_place (known : Liveness) (session : Session) (name : String) (consumers : Nat)
    (same : (x.acquire known session name consumers).turn e = x.turn e) :
    ((x.acquire known session name consumers).memory.entries.getD e default).slots =
        (x.memory.entries.getD e default).slots ∧
      (x.acquire known session name consumers).memory.blocks.getD e default =
        x.memory.blocks.getD e default := by
  rcases x.acquire_cases known session name consumers with
    quiet | ⟨i, b, -, -, place, pool, -, made⟩ | ⟨i, found, made⟩
  · rw [quiet]
    exact ⟨rfl, rfl⟩
  · have elsewhere : e ≠ i := elsewhere_of_turn (congrArg laidOut made) same
    have block : b = i := by
      rw [Segment.freeBlock?_eq founded.sound.consistent paired.titles, place] at pool
      exact (Option.some_inj.mp pool).symm
    rw [made]
    exact ⟨congrArg Entry.slots (Segment.setQueueAt_entry_other elsewhere),
      Segment.setQueueAt_block_other (block ▸ elsewhere)⟩
  · rw [made]
    have slots : (x.memory.queue (x.memory.handleAt i)).addReference.entry.slots =
        (x.memory.entries.getD (x.memory.handleAt i).entry default).slots := rfl
    have sync : (x.memory.queue (x.memory.handleAt i)).addReference.sync =
        x.memory.blocks.getD (x.memory.handleAt i).block default := rfl
    constructor
    · exact Segment.getD_setIfInBounds_same Entry.slots slots e
    · exact Segment.getD_setIfInBounds_same id sync e

theorem acquire_laneAt (known : Liveness) (session : Session) (name : String) (consumers : Nat)
    (same : (x.acquire known session name consumers).turn e = x.turn e) (j : Nat) :
    (x.acquire known session name consumers).memory.laneAt e j = x.memory.laneAt e j := by
  obtain ⟨slots, block⟩ := acquire_place paired founded known session name consumers same
  rw [Segment.laneAt, Segment.slotAt, slots, block]
  rfl

/-- A visit makes of the lanes of the queue that it finds what it makes of the queue, and nothing of
all others. -/
theorem visit_laneAt {move : Move} {known : Liveness} {session : Session} {name : String}
    (visit : move.visit? = some (known, session, name))
    (same : (x.perform move).turn e = x.turn e) (j : Nat) :
    known.check = .ok () ∧ x.memory.find? x.geometry.maxQueues name = some e ∧
        (x.perform move).memory.laneAt e j =
          ((x.memory.queue (x.memory.handleAt e)).visited move).lane j ∨
      ¬ (known.check = .ok () ∧ x.memory.find? x.geometry.maxQueues name = some e) ∧
        (x.perform move).memory.laneAt e j = x.memory.laneAt e j := by
  by_cases claim : ∃ known session name consumers, move = .acquire known session name consumers
  · obtain ⟨known', session', name', consumers, rfl⟩ := claim
    have kept := acquire_laneAt paired founded known' session' name' consumers same j
    by_cases finds : known.check = .ok () ∧ x.memory.find? x.geometry.maxQueues name = some e
    · refine .inl ⟨finds.1, finds.2, kept.trans ?_⟩
      exact (Segment.lane_eq_laneAt x.memory (found_paired paired finds.2) j).symm
    · exact .inr ⟨finds, kept⟩
  · have other : ∀ known session name consumers, move ≠ .acquire known session name consumers :=
      fun known session name consumers same => claim ⟨known, session, name, consumers, same⟩
    by_cases hits : known.check = .ok () ∧ ∃ i, x.memory.find? x.geometry.maxQueues name = some i
    · obtain ⟨alive, i, found⟩ := hits
      have after : (x.perform move).memory.laneAt e j =
          if e = i then ((x.memory.queue (x.memory.handleAt i)).visited move).lane j
          else x.memory.laneAt e j := by
        rw [← setQueue_found paired founded found]
        rcases visit_memory visit other alive found with made | made
        · rw [made]
        · rw [made, Segment.dropReference_laneAt]
      by_cases here : e = i
      · subst here
        rw [if_pos rfl] at after
        exact .inl ⟨alive, found, after⟩
      · rw [if_neg here] at after
        exact .inr ⟨fun finds => here (Option.some_inj.mp (finds.2.symm.trans found)), after⟩
    · refine .inr ⟨fun finds => hits ⟨finds.1, e, finds.2⟩, ?_⟩
      rw [visit_missed visit other fun alive => ?_]
      cases found : x.memory.find? x.geometry.maxQueues name with
      | none => rfl
      | some i => exact absurd ⟨alive, i, found⟩ hits

end Lanes

section Charges

/-! Whose name a queue carries as its producer's. -/

theorem perform_charges (x : Commons) (move : Move) :
    (x.perform move).producers.map ProducerSeat.charge = x.producers.map ProducerSeat.charge ∨
      ∃ i, x.TakesUp move i := by
  cases move with
  | acquire known session name consumers =>
    exact .inl (congrArg _ (x.acquire_seats known session name consumers).1)
  | bind known session name consumerNodes distribution limit =>
    simp only [perform, bind]
    rcases x.memory.bind_roles x.geometry known session name consumerNodes distribution with
      ⟨cause, failed⟩ | ⟨i, alive, found, free, -⟩ | ⟨i, found, taken, made⟩
    · rw [failed]
      exact .inl rfl
    · exact .inr ⟨i, known, session, name, consumerNodes, distribution, limit, rfl, alive, found, free⟩
    · rw [made]
      cases ((x.memory.queue (x.memory.handleAt i)).bindConsumer session name).2 with
      | error cause => exact .inl rfl
      | ok j => exact .inl rfl
  | release known session name => exact .inl (congrArg _ (x.release_seats known session name).1)
  | disconnect known session name => exact .inl rfl
  | produce k move => exact .inl (produce_map ProducerSeat.step_charge x k move)
  | consume k move => exact .inl (congrArg _ (consume_producers x k move))

/-- Nobody was bound to a queue that is still to come, and the name that the queue of a place
carries is that of somebody who was bound to it, if anybody was. -/
structure Charged (x : Commons) : Prop where
  past : ∀ seat ∈ x.producers, seat.turn ≤ x.turn seat.producer.handle.entry
  named : ∀ e, ¬ x.Unbound e →
    ∃ seat ∈ x.producers, seat.producer.handle.entry = e ∧ seat.turn = x.turn e ∧
      seat.producer.session = x.memory.producerOf e

theorem takesUp_charged {move : Move} (founded : x.Founded) (takes : x.TakesUp move e) :
    ∃ seat, (x.perform move).producers = x.producers ++ [seat] ∧
      seat.producer.handle.entry = e ∧ seat.turn = (x.perform move).turn e ∧
      seat.producer.session = (x.perform move).memory.producerOf e := by
  obtain ⟨known, session, name, consumerNodes, distribution, limit, rfl, alive, found, free⟩ := takes
  have named := congrArg Outline.producer (Queue.bindProducer_outline
    (x.memory.queue (x.memory.handleAt e)) session consumerNodes distribution)
  rw [bind_takesUp alive found free]
  refine ⟨_, rfl, rfl, rfl, ?_⟩
  rw [Segment.producerOf_setQueue (serves_found founded found).has,
    if_pos (show e = (x.memory.handleAt e).entry from rfl)]
  exact named.symm

/-- The name stays where everybody who was bound is where they were, whoever steps. -/
theorem Charged.stays (charged : x.Charged) (founded : x.Founded) {move : Move}
    (same : (x.perform move).producers.map ProducerSeat.charge =
      x.producers.map ProducerSeat.charge) : (x.perform move).Charged := by
  have later (e : Nat) := turn_le_perform founded move e
  have before {seat : ProducerSeat} (member : seat ∈ (x.perform move).producers) :
      ∃ old ∈ x.producers, old.charge = seat.charge :=
    List.mem_map.mp (same ▸ List.mem_map_of_mem member)
  have after {seat : ProducerSeat} (member : seat ∈ x.producers) :
      ∃ new ∈ (x.perform move).producers, new.charge = seat.charge :=
    List.mem_map.mp (same ▸ List.mem_map_of_mem member)
  have past : ∀ seat ∈ (x.perform move).producers,
      seat.turn ≤ x.turn seat.producer.handle.entry := by
    intro seat member
    obtain ⟨old, there, kept⟩ := before member
    simp only [ProducerSeat.charge, Prod.mk.injEq] at kept
    rw [← kept.1, ← kept.2.2]
    exact charged.past old there
  refine ⟨fun seat member => Nat.le_trans (past seat member) (later _), fun e bound => ?_⟩
  simp only [Unbound, not_forall, not_not] at bound
  obtain ⟨seat, member, rfl, current⟩ := bound
  have still : (x.perform move).turn seat.producer.handle.entry =
      x.turn seat.producer.handle.entry := by
    have := past seat member
    have := later seat.producer.handle.entry
    omega
  obtain ⟨old, there, kept⟩ := before member
  simp only [ProducerSeat.charge, Prod.mk.injEq] at kept
  rcases perform_producerOf founded move still with producer | takes
  · have wasBound : ¬ x.Unbound seat.producer.handle.entry := fun none =>
      none old there (congrArg Handle.entry kept.1) (by omega)
    obtain ⟨first, listed, entry, turn, session⟩ := charged.named _ wasBound
    obtain ⟨new, listed, same⟩ := after listed
    simp only [ProducerSeat.charge, Prod.mk.injEq] at same
    refine ⟨new, listed, ?_, ?_, ?_⟩
    · rw [same.1]
      exact entry
    · rw [same.2.2, still]
      exact turn
    · rw [same.2.1, producer]
      exact session
  · obtain ⟨new, listed, entry, turn, session⟩ := takesUp_charged founded takes
    exact ⟨new, listed ▸ List.mem_append_right _ (List.mem_singleton_self _), entry, turn, session⟩

/-- Where a session takes up the role the name is its own, and elsewhere it is the same. -/
theorem Charged.takesUp (charged : x.Charged) (founded : x.Founded) {move : Move} {i : Nat}
    (takes : x.TakesUp move i) : (x.perform move).Charged := by
  obtain ⟨new, listed, entry, turn, session⟩ := takesUp_charged founded takes
  have others : ∀ known session name consumers, move ≠ .acquire known session name consumers := by
    obtain ⟨_, _, _, _, _, _, rfl, -⟩ := takes
    exact fun _ _ _ _ => Move.noConfusion
  have still (e : Nat) := x.perform_turn others e
  refine ⟨?_, fun e bound => ?_⟩
  · intro seat member
    rw [listed, List.mem_append, List.mem_singleton] at member
    rw [still]
    rcases member with before | rfl
    · exact charged.past seat before
    · rw [turn, entry, still]
  · by_cases here : e = i
    · subst here
      exact ⟨new, listed ▸ List.mem_append_right _ (List.mem_singleton_self _), entry, turn, session⟩
    · have producer : (x.perform move).memory.producerOf e = x.memory.producerOf e := by
        rcases perform_producerOf founded move (still e) with kept | takes'
        · exact kept
        · exact absurd (takes.unique takes') here
      have wasBound : ¬ x.Unbound e := by
        intro none
        apply bound
        intro seat member
        rw [listed, List.mem_append, List.mem_singleton] at member
        rw [still]
        rcases member with before | rfl
        · exact none seat before
        · exact fun same => absurd (same.symm.trans entry) here
      obtain ⟨first, there, place, date, name⟩ := charged.named e wasBound
      refine ⟨first, listed ▸ List.mem_append_left _ there, place, ?_, ?_⟩
      · rw [still]
        exact date
      · rw [producer]
        exact name

theorem Charged.perform (charged : x.Charged) (founded : x.Founded) (move : Move) :
    (x.perform move).Charged := by
  rcases x.perform_charges move with same | ⟨i, takes⟩
  · exact charged.stays founded same
  · exact charged.takesUp founded takes

theorem charged_run (c : Config) (creator : ProcessId) (moves : List Move) :
    ((start c creator).run moves).Charged := by
  have none : (start c creator).Charged :=
    ⟨nofun, fun e bound => absurd (fun seat member => absurd member List.not_mem_nil) bound⟩
  exact (run_induction (motive := fun y => y.Founded ∧ y.Charged) ⟨.start c creator, none⟩
    (fun y move before => ⟨before.1.perform move, before.2.perform before.1 move⟩) moves).2

end Charges

/-- Whenever there is a queue in a place: a session that claims a queue, binds, gives its claim up
or reports a reader's end leaves every slot that was given to another node as it is, with its
reader's latch, the queue that goes with its last claim included. If a session gives its claim on
this queue up, then for a node to whose slot nobody is attached, or before a producer was bound, the
memory only loses a reference. For a node that has no slot and is not the producer's, once a
producer was bound whose node is one, it also has the producer signalled, and of the slots exactly
those closed that nobody was given, the first of which goes to the node. -/
theorem visit_keeps_to_own_slots (c : Config) (creator : ProcessId) (moves : List Move) (e : Nat)
    (live : (((start c creator).run moves).memory.register.title e).live = true)
    (noded : ∀ seat ∈ ((start c creator).run moves).producers, seat.producer.handle.entry = e →
      seat.turn = ((start c creator).run moves).turn e →
        seat.producer.session.node ≠ Slot.unassigned) :
    let x := (start c creator).run moves
    let h := x.memory.handleAt e
    let q := x.memory.queue h
    (∀ move known session name, move.visit? = some (known, session, name) →
      ∀ i, i < q.consumers → (q.lane i).slot.node ≠ session.node →
        (q.lane i).slot.node ≠ Slot.unassigned →
          ((x.perform move).memory.queue h).lane i = q.lane i) ∧
    ∀ known session, known.check = .ok () →
      let y := x.perform (.release known session h.name)
      ((∃ i, q.slotOf? session.node = some i ∧ (q.lane i).slot.pid = 0) ∨ x.Unbound e →
        y.memory = x.memory.dropReference h) ∧
      (¬ x.Unbound e → session.node ≠ (x.memory.producerOf e).node →
        (∀ i, i < q.consumers → (q.lane i).slot.node ≠ session.node) →
          y.memory = (x.memory.setQueue h
            ⟨q.entry.seed session.node,
              { q.sync with producer := q.sync.producer.set }⟩).dropReference h) := by
  intro x h q
  have founded : x.Founded := (Founded.start c creator).run moves
  have paired : x.ledger.Paired := paired_from_start c creator moves
  have found : x.memory.find? x.geometry.maxQueues h.name = some e :=
    (Segment.find?_eq_some_iff founded.built founded.sound.consistent).mpr
      (Title.isNamed_iff.mpr ⟨live, rfl⟩)
  have block : h.block = h.entry := found_paired paired found
  refine ⟨?_, ?_⟩
  · intro move known session name visit i inside foreign assigned
    have wired : q.Wired := (serves_found founded found).wired
    have before := Segment.lane_eq_laneAt x.memory block i
    have after := Segment.lane_eq_laneAt (x.perform move).memory block i
    simp only [Segment.lane] at before after
    rw [after]
    by_cases same : (x.perform move).turn e = x.turn e
    · rcases visit_laneAt paired founded visit same i with ⟨-, -, made⟩ | ⟨-, kept⟩
      · exact made.trans (Queue.visited_foreign wired visit inside foreign assigned)
      · exact kept.trans before.symm
    · -- a place that holds a queue is not laid out
      have free := (perform_step founded move).1.laidOut_free same
      cases live.symm.trans free
  · intro known session alive y
    have given : y.memory = (x.memory.setQueue h (q.giveUp session)).dropReference h := by
      simp only [y, perform, release_memory, Segment.release_found alive found]
      rfl
    refine ⟨?_, ?_⟩
    · intro idle
      have still : q.giveUp session = q := by
        rcases idle with ⟨i, own, free⟩ | unbound
        · exact Queue.giveUp_unattached own free
        · have vacant := vacant_run c creator moves (turn_pos_of_found c creator moves found) unbound
          exact Queue.giveUp_unbound (congrArg Session.node vacant.producer)
      rw [given, still, Segment.setQueue_queue]
    · intro bound foreign none
      obtain ⟨seat, member, place, turn, name⟩ := (charged_run c creator moves).named e bound
      have node : q.entry.producerNode ≠ Slot.unassigned := by
        have named := noded seat member place turn
        rw [name] at named
        exact named
      have seeds : q.giveUp session = q.releaseConsumer session :=
        if_neg (not_or.mpr ⟨node, fun own => foreign own.symm⟩)
      rw [given, seeds, Queue.releaseConsumer_seeds (Queue.slotOf?_eq_none.mpr none)]

/-- A producer with two slots of which it gives one to its reader, and a third session that has
claimed the queue. -/
def thirdParty : List Move :=
  [.acquire undisturbed ⟨100, 0⟩ "rows" 2, .acquire undisturbed ⟨101, 1⟩ "rows" 2,
    .acquire undisturbed ⟨105, 5⟩ "rows" 2, .bind undisturbed ⟨100, 0⟩ "rows" [1] [0, 1] 64,
    .bind undisturbed ⟨101, 1⟩ "rows" [1] [0, 1] 64, .produce 0 (.call (.write 0 [7]))]

/-- When the third one goes, the reader's slot stays as it is and the spare one is closed. -/
theorem visit_keeps_to_own_slots_thirdParty :
    let x := (start wider 1).run thirdParty
    let h := x.memory.handleAt 0
    let y := x.perform (.release undisturbed ⟨105, 5⟩ "rows")
    (x.memory.register.title 0).live = true ∧
      (∀ seat ∈ x.producers, seat.producer.handle.entry = 0 → seat.turn = x.turn 0 →
        seat.producer.session.node ≠ Slot.unassigned) ∧
      ((x.memory.queue h).lane 0).slot.ring.rows = 1 ∧
      (y.memory.queue h).lane 0 = (x.memory.queue h).lane 0 ∧
      ((x.memory.queue h).lane 1).slot.status = .active ∧
      ((y.memory.queue h).lane 1).slot.status = .done ∧
      ((y.memory.queue h).lane 1).slot.node = 5 := by
  intro x h y
  have live : (x.memory.register.title 0).live = true := by decide +kernel
  have noded : ∀ seat ∈ x.producers, seat.producer.handle.entry = 0 → seat.turn = x.turn 0 →
      seat.producer.session.node ≠ Slot.unassigned := by decide +kernel
  have inside : 0 < (x.memory.queue h).consumers := by decide +kernel
  have foreign : ((x.memory.queue h).lane 0).slot.node ≠ 5 := by decide +kernel
  have assigned : ((x.memory.queue h).lane 0).slot.node ≠ Slot.unassigned := by decide +kernel
  have keeps := (visit_keeps_to_own_slots wider 1 thirdParty 0 live noded).1
    (.release undisturbed ⟨105, 5⟩ "rows") undisturbed ⟨105, 5⟩ "rows" rfl 0 inside foreign assigned
  exact ⟨live, noded, by decide +kernel, keeps, by decide +kernel, by decide +kernel,
    by decide +kernel⟩

end Commons

end RecordExchange
