import RecordExchange.Proofs.Commons.Alone
import RecordExchange.Proofs.Commons.Stages
import RecordExchange.Proofs.Commons.Unbinding

set_option autoImplicit false

/-!
Queues without readers, over whole runs.

As long as sessions that bind have names and roles are played at queues that are still there, a slot
is asked for a chunk by its own reader alone. So a slot that nobody attached to never is, and a
queue all of whose slots are done or free is one that nobody reads from.
-/

namespace RecordExchange

theorem ConsumerSeat.step_beside (seat : ConsumerSeat) (q : Queue) (move : ConsumerMove) {i : Nat}
    (other : seat.consumer.index ≠ i) : (seat.step q move).2.lane i = q.lane i := by
  have read (canWait : Bool) (point : ReadPoint) :
      (seat.read canWait point q).2.lane i = q.lane i :=
    (seat.consumer.readStep_frame canWait point q).others i other
  have left : (seat.consumer.reset q).1.lane i = q.lane i :=
    (seat.consumer.reset_frame q).2.1 i other
  unfold step
  split
  · split
    · exact read ..
    · exact read ..
    · split
      · rfl
      · rfl
    · exact left
    · unfold Consumer.drop
      split
      · rfl
      · exact left
    · rfl
  · rfl

/-- Each slot of the queue that a handle holds on to is done, or nobody attached to it. -/
def Segment.Readerless (s : Segment) (h : Handle) : Prop :=
  ∀ i, i < (s.queue h).consumers →
    ((s.queue h).lane i).slot.status = .done ∨ ((s.queue h).lane i).slot.pid = 0

instance (s : Segment) (h : Handle) : Decidable (s.Readerless h) :=
  inferInstanceAs (Decidable (∀ i, i < (s.queue h).consumers → _ ∨ _))

namespace Commons

variable {x : Commons}

/-- Sessions that take up roles have names, and roles are played at queues that are still there. -/
def Proper (x : Commons) (move : Move) : Prop := Named move ∧ x.AtLiveQueue move

instance (x : Commons) (move : Move) : Decidable (x.Proper move) :=
  inferInstanceAs (Decidable (_ ∧ _))

/-- Slots that are asked for a chunk are attended. -/
def Asks (x : Commons) : Prop := ∀ e i, (x.memory.slotAt e i).AsksAttended

theorem Asks.start (c : Config) (creator : ProcessId) : (Commons.start c creator).Asks := by
  intro e i asked
  have blank : ((Commons.start c creator).memory.slotAt e i).ring.count = .empty := by
    change (((Array.replicate c.maxQueues Entry.unused).getD e default).slots.getD i
      default).ring.count = _
    simp only [Array.getD_eq_getD_getElem?, Array.getElem?_replicate]
    split
    · rfl
    · rfl
  rw [blank] at asked
  cases asked

theorem Asks.laidOut {e : Nat} (founded : x.Founded) (move : Move)
    (laid : (x.perform move).turn e ≠ x.turn e) (i : Nat) :
    ((x.perform move).memory.slotAt e i).AsksAttended := by
  obtain ⟨present, b, name, consumers, ringLen, -, made⟩ := laidOut_formatted founded laid
  intro asked
  have blank : ((x.perform move).memory.slotAt e i).ring.count = .empty := by
    rw [made]
    simp only [Segment.slotAt, Segment.setQueueAt, Array.getD_eq_getD_getElem?,
      Array.getElem?_setIfInBounds_self_of_lt present, Option.getD_some, Entry.format,
      Array.getElem?_ofFn]
    split
    · rfl
    · rfl
  rw [blank] at asked
  cases asked

/-- A reader asks for a chunk in a slot that it attends to. -/
theorem Asks.consume (asks : x.Asks) (founded : x.Founded) (manned : x.Manned) {k : Nat}
    {seat : ConsumerSeat} (here : x.consumers[k]? = some seat)
    (current : seat.turn = x.turn seat.consumer.handle.entry) (move : ConsumerMove) :
    (x.consume k move).Asks := by
  intro e i
  by_cases own : seat.consumer.handle.entry = e ∧ seat.consumer.index = i
  · obtain ⟨rfl, rfl⟩ := own
    obtain ⟨-, -, attended⟩ := manned.attached_at here ⟨rfl, current⟩
    have attends := (consume_changes founded Lane.attends_others.toReadersObey here move).slotwise
      (S := fun s t => s.Attended → t.Attended) (fun _ => id) seat.consumer.handle.entry
    exact fun _ => attends.slots seat.consumer.index attended
  · have same : (x.consume k move).memory.slotAt e i = x.memory.slotAt e i := by
      by_cases place : seat.consumer.handle.entry = e
      · subst place
        have has := (serves_consumer founded (List.mem_of_getElem? here)).has
        have beside := seat.step_beside (x.memory.queue seat.consumer.handle) move
          fun index => own ⟨rfl, index⟩
        simp only [Commons.consume, here]
        change (((x.memory.setQueue seat.consumer.handle _).queue seat.consumer.handle).lane i).slot =
          ((x.memory.queue seat.consumer.handle).lane i).slot
        rw [has.queue_setQueue, beside]
      · simp only [Commons.consume, here, Segment.slotAt, Segment.setQueue]
        rw [Segment.setQueueAt_entry_other (Ne.symm place)]
    rw [same]
    exact asks e i

theorem Asks.perform (asks : x.Asks) (founded : x.Founded) (manned : x.Manned) {move : Move}
    (holding : x.AtLiveQueue move) : (x.perform move).Asks := by
  have still {y : Commons} {h : Handle}
      (changes : x.memory.Changes (fun l m => l.slot.AsksAttended → m.slot.AsksAttended) y.memory h) :
      y.Asks := fun e i =>
    (changes.slotwise (S := fun s t => s.AsksAttended → t.AsksAttended) (fun _ => id) e).slots i
      (asks e i)
  have sessions := Lane.asksAttended_sessions
  cases move with
  | acquire live session name consumers =>
    intro e i
    by_cases same : (x.acquire live session name consumers).turn e = x.turn e
    · exact (acquire_slotwise (S := fun s t => s.AsksAttended → t.AsksAttended) (fun _ => id)
        founded live session name consumers same).slots i (asks e i)
    · exact Asks.laidOut founded (.acquire live session name consumers) same i
  | bind live session name consumerNodes distribution limit =>
    obtain ⟨h, changes⟩ := bind_changes founded sessions.refl sessions.takesUp sessions.attaches live
      session name consumerNodes distribution limit
    exact still changes
  | release live session name =>
    obtain ⟨h, changes⟩ := release_changes founded sessions.refl sessions.releases live session name
    exact still changes
  | disconnect live session name =>
    obtain ⟨h, changes⟩ := disconnect_changes founded sessions.refl sessions.disconnects live
      session name
    exact still (y := x.perform (.disconnect live session name)) changes
  | produce k move =>
    cases here : x.producers[k]? with
    | none =>
      rw [Commons.perform, produce_none here]
      exact asks
    | some seat =>
      have changes := produce_changes founded Lane.asksNothing_obeys here move
      exact still ⟨changes.consumers, fun i inside => (changes.own i inside).asksAttended,
        changes.slots, changes.latches⟩
  | consume k move =>
    cases here : x.consumers[k]? with
    | none =>
      rw [Commons.perform, consume_none here]
      exact asks
    | some seat => exact asks.consume founded manned here (holding seat here).2 move

theorem asks_run (founded : x.Founded) (manned : x.Manned) (asks : x.Asks) (moves : List Move)
    (proper : Along Proper x moves) : (x.run moves).Asks := by
  induction moves generalizing x with
  | nil => exact asks
  | cons move rest ih =>
    obtain ⟨⟨named, holding⟩, later⟩ := proper
    exact ih (founded.perform move) (manned.perform founded named)
      (asks.perform founded manned holding) later

theorem Asks.deserted (asks : x.Asks) (founded : x.Founded) {k : Nat} {seat : ProducerSeat}
    (bound : x.producers[k]? = some seat) (left : x.memory.Readerless seat.producer.handle) :
    x.memory.Deserted seat.producer.handle := by
  exact ⟨serves_producer founded (List.mem_of_getElem? bound),
    fun i inside => (asks seat.producer.handle.entry i).deserted (left i inside)⟩

section Own

variable {R : Lane → Lane → Prop} {k : Nat} {seat : ProducerSeat}

/-- Moves of one producer alone are work on its queue, and leave it at its post. -/
theorem run_own (obeys : Producer.Obeys R) (founded : x.Founded)
    (bound : x.producers[k]? = some seat) (own : List ProducerMove) :
    x.memory.Changes R (x.run (own.map (.produce k))).memory seat.producer.handle ∧
      (∀ e, (x.run (own.map (.produce k))).turn e = x.turn e) ∧
      ∀ after, (x.run (own.map (.produce k))).producers[k]? = some after →
        after.post = seat.post := by
  induction own generalizing x seat with
  | nil =>
    refine ⟨.refl obeys.refl .., fun _ => rfl, fun after here => ?_⟩
    exact congrArg ProducerSeat.post (Option.some.inj (here.symm.trans bound))
  | cons move rest ih =>
    have changes := produce_changes founded obeys bound move
    obtain ⟨later, turns, stays⟩ := ih (founded.perform (.produce k move)) (produce_seat bound move)
    have post := seat.step_post x.memory move
    have handle : (seat.step x.memory move).1.producer.handle = seat.producer.handle :=
      congrArg Prod.fst post
    rw [handle] at later
    exact ⟨changes.trans obeys.trans later,
      fun e => (turns e).trans (perform_turn x (fun _ _ _ _ => Move.noConfusion) e),
      fun after here => (stays after here).trans post⟩

end Own

end Commons

end RecordExchange
