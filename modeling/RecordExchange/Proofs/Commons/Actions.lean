import RecordExchange.Proofs.Commons.Lifecycle
import RecordExchange.Proofs.Exchange.Received

set_option autoImplicit false

/-!
Moves as actions.

What a bound producer or reader does is an action of the exchange that its queue is, but for a look
whether to go on and for letting go. Those, and what sessions do that come and go, leave the buffers
of a queue alone or empty them.
-/

namespace RecordExchange

/-- What rests yields no record. -/
theorem Yields.rests {keeps keeps' : Bool} {before after : Slot} {held held' : Option OverflowStore}
    (rests : before.Rests after) (kept : keeps' = true → keeps = true ∧ held' = held) :
    Yields keeps keeps' before held after held' [] := by
  cases rests with
  | stays alike => exact .alike alike kept
  | closes done ring =>
    rcases ring with same | emptied
    · exact .closed same (Slot.not_isOpen_of_done done)
    · exact .cleared emptied (Slot.not_isOpen_of_done done)

/-- The action of an exchange that a producer's move is, where it is one. -/
def ProducerMove.action? : ProducerMove → Option Action
  | .call (.write i record) => some (.write i record)
  | .call .finish => some .finish
  | .call .drain => some .drain
  | .call .waited => some .waited
  | .call .reset => some .reset
  | .call .canPause => none
  | .call .resetNotConnected => none
  | .unbind failed => some (.unbind failed)
  | .close live => some (.close live)
  | .wake timely => some (.wake timely)
  | .giveUp live => some (.giveUp live)

/-- The action of an exchange that a move of the reader of slot `i` is, where it is one. -/
def ConsumerMove.action? (i : Nat) : ConsumerMove → Option Action
  | .read canWait => some (.read i canWait)
  | .resume => some (.resume i)
  | .abandon live => some (.abandon i live)
  | .leave => some (.leave i)
  | .drop => none

/-- On the other moves of a producer it stays as it is, and its queue rests. -/
theorem ProducerSeat.step_rests (seat : ProducerSeat) {s : Segment}
    (has : s.Has seat.producer.handle) {move : ProducerMove} (none : move.action? = none) :
    (seat.step s move).1 = seat ∧
      s.Changes Lane.Rests (seat.step s move).2 seat.producer.handle := by
  have reflexive (l : Lane) : l.Rests l := .refl l.slot
  obtain ⟨p, limit, stand, turn⟩ := seat
  cases move with
  | call c =>
    cases c with
    | canPause =>
      cases stand with
      | bound =>
        refine ⟨rfl, .setQueue has (congrArg Outline.slots (Producer.canPause_outline _)) ?_⟩
        intro i inside
        rw [Producer.canPause]
        split
        · exact reflexive _
        · exact reflexive _
      | _ => exact ⟨rfl, .refl reflexive ..⟩
    | resetNotConnected =>
      cases stand with
      | bound =>
        refine ⟨rfl, .setQueue has (Queue.mapLanes_consumers ..) ?_⟩
        intro i inside
        unfold Lane.Rests
        rcases Producer.resetNotConnected_slot inside with alike | ⟨ring, done⟩
        · rw [alike]
          exact .refl _
        · exact .closes done (.inr ring)
      | _ => exact ⟨rfl, .refl reflexive ..⟩
    | _ => cases none
  | _ => cases none

/-- A reader that lets go stays as it is, and its queue rests. -/
theorem ConsumerSeat.drop_rests (seat : ConsumerSeat) (q : Queue) :
    (seat.step q .drop).1.consumer = seat.consumer ∧
      (seat.step q .drop).1.reading = seat.reading ∧ q.Lanewise Lane.Rests (seat.step q .drop).2 := by
  have still : q.Lanewise Lane.Rests q := fun i _ => .refl (q.lane i).slot
  obtain ⟨c, reading, isOpen, turn⟩ := seat
  cases isOpen with
  | false => exact ⟨rfl, rfl, still⟩
  | true =>
    cases reading with
    | none =>
      refine ⟨rfl, rfl, ?_⟩
      simp only [step, ↓reduceIte, Consumer.drop]
      split
      · exact still
      · exact Consumer.reset_rests
    | some point => exact ⟨rfl, rfl, still⟩

namespace Exchange

variable {y : Exchange} {n i : Nat}

/-- The seat of the producer, which was bound when its place had been laid out `turn` times. -/
def seat (y : Exchange) (turn : Nat) : ProducerSeat := ⟨y.producer, y.limit, y.stand, turn⟩

/-- A producer's move is the action, and the readers stand where they stood. -/
theorem perform_seat (y : Exchange) (turn : Nat) {move : ProducerMove} {action : Action}
    (same : move.action? = some action) :
    (y.seat turn).step y.memory move =
        ((y.perform action).1.seat turn, (y.perform action).1.memory) ∧
      ∀ i, ((y.perform action).1.ports i).consumer = (y.ports i).consumer ∧
        ((y.perform action).1.ports i).reading = (y.ports i).reading := by
  obtain ⟨memory, limit, producer, stand, ports⟩ := y
  cases move with
  | call c =>
    cases c with
    | write i record =>
      cases same
      cases stand with
      | bound =>
        obtain ⟨p, q, result, written⟩ : ∃ p q result,
            producer.write limit (memory.queue producer.handle) i record = (p, q, result) :=
          ⟨_, _, _, rfl⟩
        simp only [seat, ProducerSeat.step, ProducerSeat.call, perform, write, queue, written]
        cases result with
        | error cause => exact ⟨rfl, fun _ => ⟨rfl, rfl⟩⟩
        | ok done =>
          dsimp only
          split
          · refine ⟨rfl, fun j => ?_⟩
            rw [withPort_ports]
            split
            · rename_i here
              rw [here]
              exact ⟨rfl, rfl⟩
            · exact ⟨rfl, rfl⟩
          · exact ⟨rfl, fun _ => ⟨rfl, rfl⟩⟩
      | _ => exact ⟨rfl, fun _ => ⟨rfl, rfl⟩⟩
    | canPause => cases same
    | resetNotConnected => cases same
    | _ =>
      cases same
      cases stand with
      | _ => exact ⟨rfl, fun _ => ⟨rfl, rfl⟩⟩
  | giveUp live =>
    cases same
    cases stand with
    | asleep failed pass =>
      simp only [seat, ProducerSeat.step, perform]
      cases live.check with
      | ok _ => exact ⟨rfl, fun _ => ⟨rfl, rfl⟩⟩
      | error cause => exact ⟨rfl, fun _ => ⟨rfl, rfl⟩⟩
    | _ => exact ⟨rfl, fun _ => ⟨rfl, rfl⟩⟩
  | _ =>
    cases same
    cases stand with
    | _ => exact ⟨rfl, fun _ => ⟨rfl, rfl⟩⟩

/-- The reader of slot `i` made a move, and everybody else stands as before. -/
structure Seated (y z : Exchange) (i : Nat) (made : ConsumerSeat × Queue) : Prop where
  memory : z.memory = y.memory.setQueue y.producer.handle made.2
  consumer : (z.ports i).consumer = made.1.consumer
  reading : (z.ports i).reading = made.1.reading
  others : ∀ j, j ≠ i → z.ports j = y.ports j
  seat : ∀ turn, z.seat turn = y.seat turn

section Reader

variable {seat : ConsumerSeat} (consumer : (y.ports i).consumer = seat.consumer)
  (reading : (y.ports i).reading = seat.reading)
include consumer

theorem read_seated (canWait : Bool) (point : ReadPoint) :
    y.Seated (y.read i canWait point).1 i (seat.read canWait point y.queue) := by
  refine ⟨?_, ?_, ?_, fun j other => ?_, fun _ => rfl⟩
  · rw [read_places, consumer]
    rfl
  · rw [read_port, Port.after_consumer, consumer]
    simp only [ConsumerSeat.read]
    cases (seat.consumer.readStep canWait point y.queue).2.2 with
    | sleeps next => rfl
    | ended result => rfl
  · rw [read_port, consumer]
    simp only [ConsumerSeat.read]
    cases (seat.consumer.readStep canWait point y.queue).2.2 with
    | sleeps next => rfl
    | ended result => exact Port.ended_reading ..
  · rw [read_places, withPort_ports, if_neg other]
    rfl

include reading

theorem perform_seated (opened : seat.isOpen = true) (inside : i < y.queue.consumers)
    {move : ConsumerMove} {action : Action} (same : move.action? i = some action) :
    y.Seated (y.perform action).1 i (seat.step y.queue move) := by
  have still : y.Seated y i (seat, y.queue) :=
    ⟨(Segment.setQueue_queue ..).symm, consumer, reading, fun _ _ => rfl, fun _ => rfl⟩
  have read := read_seated consumer
  obtain ⟨c, stood, isOpen, turn⟩ := seat
  cases opened
  cases move with
  | read canWait =>
    cases same
    cases stood with
    | none =>
      simp only [perform, inside, reading, and_self, ↓reduceIte, ConsumerSeat.step]
      exact read canWait .row
    | some point =>
      simp only [perform, reading, reduceCtorEq, and_false, ↓reduceIte, ConsumerSeat.step]
      exact still
  | resume =>
    cases same
    cases stood with
    | none =>
      simp only [perform, reading, ↓reduceIte, ConsumerSeat.step]
      exact still
    | some point =>
      simp only [perform, inside, reading, ↓reduceIte, ConsumerSeat.step]
      exact read true point
  | abandon live =>
    cases same
    cases stood with
    | none =>
      simp only [perform, reading, ↓reduceIte, ConsumerSeat.step]
      exact still
    | some point =>
      simp only [perform, reading, ↓reduceIte, ConsumerSeat.step]
      cases live.check with
      | ok _ => exact still
      | error cause =>
        refine ⟨still.memory, ?_, ?_, fun j other => if_neg other, fun _ => rfl⟩
        · simp only [abandon, withPort_ports, ↓reduceIte, Port.ended_consumer]
          exact consumer
        · simp only [abandon, withPort_ports, ↓reduceIte, Port.ended_reading]
  | leave =>
    cases same
    cases stood with
    | none =>
      simp only [perform, inside, reading, and_self, ↓reduceIte, ConsumerSeat.step]
      refine ⟨?_, ?_, ?_, fun j other => if_neg other, fun _ => rfl⟩
      · simp only [leave, consumer]
        rfl
      · simp only [leave, withPort_ports, ↓reduceIte, consumer]
      · simp only [leave, withPort_ports, ↓reduceIte]
        exact reading
    | some point =>
      simp only [perform, reading, reduceCtorEq, and_false, ↓reduceIte, ConsumerSeat.step]
      exact still
  | drop => cases same

end Reader

theorem Sound.rests (sound : y.Sound n) {t : Segment} (has : t.Has y.producer.handle)
    (rests : y.memory.Slotwise Slot.Rests t y.producer.handle.entry) :
    ({ y with memory := t } : Exchange).Sound n := by
  have size : ({ y with memory := t } : Exchange).queue.consumers = y.queue.consumers := rests.size
  apply sound.rearrange (y := { y with memory := t }) has _ size rfl
  · intro i _
    exact .rests (rests.slots i) fun still => ⟨still, rfl⟩
  · rw [Producer.Sized, size]
    exact sound.sized

end Exchange

end RecordExchange
