import RecordExchange.Proofs.Commons.Run
import RecordExchange.Proofs.Registry.Operations

set_option autoImplicit false

/-!
Who holds what: the commons apart from everything that passes through the queues.

A ledger keeps the register, the claims and what producers and consumers hold on to. There are
eight things that a move can do to it, and most moves do none of them; whatever is to be known
about references and handles is shown of these eight and then holds along every run.
-/

namespace RecordExchange

/-- What a party holds on to and for whom, and how many queues its place had been laid out for when
it was bound. -/
structure Holding where
  handle : Handle
  session : Session
  turn : Nat
  isOpen : Bool
  deriving DecidableEq

/-- The party lets go. -/
def Holding.close (h : Holding) : Holding := { h with isOpen := false }

/-- The places a handle names are among the first `n`. -/
def Handle.Inside (h : Handle) (n : Nat) : Prop := h.entry < n ∧ h.block < n

structure Ledger where
  register : Register
  /-- Some process found entry and sync block at odds. -/
  corrupted : Bool
  producers : List Holding
  consumers : List Holding
  claims : List (Session × String)
  laidOut : Nat → List String

namespace Ledger

/-- One reference less in place `i`, which held the queue `name` for whoever gives it up. -/
def drop (l : Ledger) (i : Nat) (name : String) : Ledger :=
  { l with
    register := (l.register.drop i name).1
    corrupted := l.corrupted || (l.register.drop i name).2 }

def addReference (l : Ledger) (i : Nat) : Ledger :=
  { l with register := l.register.setReferences i ((l.register.title i).references + 1) }

/-- What a party bound now to the queue `name` in place `i` holds on to. -/
def holding (l : Ledger) (i : Nat) (name : String) (session : Session) : Holding :=
  ⟨⟨i, (l.register.title i).block, name⟩, session, (l.laidOut i).length, true⟩

inductive Step (l : Ledger) : Move → Ledger → Prop
  | quiet (move : Move) : Step l move l
  | create {live : Liveness} {session : Session} {name : String} {consumers i b : Nat}
      (valid : isQueueName name = true)
      (place : (l.register.title i).live = false) (pool : l.register.serves b = none)
      (absent : ∀ j, (l.register.title j).isNamed name = false) :
      Step l (.acquire live session name consumers)
        { l with
          register := l.register.layOut i b name
          claims := (session, name) :: l.claims
          laidOut := Function.update l.laidOut i (name :: l.laidOut i) }
  | join {live : Liveness} {session : Session} {name : String} {consumers i : Nat}
      (named : (l.register.title i).isNamed name = true) :
      Step l (.acquire live session name consumers)
        { l.addReference i with claims := (session, name) :: l.claims }
  | takeProducer {live : Liveness} {session : Session} {name : String}
      {consumerNodes distribution : List NodeId} {limit i : Nat}
      (named : (l.register.title i).isNamed name = true) :
      Step l (.bind live session name consumerNodes distribution limit)
        { l.addReference i with producers := l.producers ++ [l.holding i name session] }
  | takeConsumer {live : Liveness} {session : Session} {name : String}
      {consumerNodes distribution : List NodeId} {limit i : Nat}
      (named : (l.register.title i).isNamed name = true) :
      Step l (.bind live session name consumerNodes distribution limit)
        { l with consumers := l.consumers ++ [l.holding i name session] }
  | give {live : Liveness} {session : Session} {name : String} {i : Nat}
      (named : (l.register.title i).isNamed name = true) :
      Step l (.release live session name)
        { l.drop i name with claims := l.claims.erase (session, name) }
  | giveNothing {live : Liveness} {session : Session} {name : String}
      (absent : ∀ j, (l.register.title j).isNamed name = false) :
      Step l (.release live session name) { l with claims := l.claims.erase (session, name) }
  | settle {k : Nat} {move : ProducerMove} {held : Holding} (here : l.producers[k]? = some held)
      (opened : held.isOpen = true) :
      Step l (.produce k move)
        { l.drop held.handle.entry held.handle.name with
          producers := l.producers.set k held.close }
  | leave {k : Nat} {held : Holding} (here : l.consumers[k]? = some held) :
      Step l (.consume k .drop) { l with consumers := l.consumers.set k held.close }

end Ledger

def ProducerSeat.isOpen (seat : ProducerSeat) : Bool :=
  match seat.stand with
  | .gone => false
  | _ => true

def ProducerSeat.holding (seat : ProducerSeat) : Holding :=
  ⟨seat.producer.handle, seat.producer.session, seat.turn, seat.isOpen⟩

def ConsumerSeat.holding (seat : ConsumerSeat) : Holding :=
  ⟨seat.consumer.handle, seat.consumer.session, seat.turn, seat.isOpen⟩

def Commons.ledger (x : Commons) : Ledger where
  register := x.memory.register
  corrupted := x.memory.corrupted
  producers := x.producers.map ProducerSeat.holding
  consumers := x.consumers.map ConsumerSeat.holding
  claims := x.claims
  laidOut := x.laidOut

namespace ProducerSeat

variable {seat : ProducerSeat} {s : Segment}

theorem call_keeps (p : Producer) (limit : Nat) (q : Queue) (c : ProducerCall) :
    (call p limit q c).1.hold = p.hold ∧ (call p limit q c).2.outline = q.outline := by
  cases c with
  | write i record => exact ⟨Producer.write_hold .., Producer.write_outline ..⟩
  | finish => exact ⟨Producer.finish_hold .., Producer.finish_outline ..⟩
  | drain => exact ⟨Producer.drainStep_hold .., Producer.drainStep_outline ..⟩
  | waited => exact ⟨rfl, rfl⟩
  | canPause => exact ⟨rfl, Producer.canPause_outline q⟩
  | reset => exact ⟨rfl, Producer.reset_outline ..⟩
  | resetNotConnected => exact ⟨rfl, Producer.resetNotConnected_outline q⟩

theorem holding_of_hold (seat : ProducerSeat) {p : Producer} (same : p.hold = seat.producer.hold)
    (stand : Stand)
    (opened : ({ seat with producer := p, stand } : ProducerSeat).isOpen = seat.isOpen) :
    ({ seat with producer := p, stand } : ProducerSeat).holding = seat.holding := by
  have handle : p.handle = seat.producer.handle := congrArg Prod.fst same
  have session : p.session = seat.producer.session := congrArg Prod.snd same
  simp only [holding, handle, session, opened]

/-- A producer either works on its queue, or gives up its reference and is gone. -/
theorem step_cases (seat : ProducerSeat) (s : Segment) (move : ProducerMove) :
    (seat.step s move).1.holding = seat.holding ∧ s.Keeps (seat.step s move).2 ∨
      seat.isOpen = true ∧ (seat.step s move).1.holding = seat.holding.close ∧
        ∃ t, s.Keeps t ∧ (seat.step s move).2 = t.dropReference seat.producer.handle := by
  have still : seat.holding = seat.holding ∧ s.Keeps s := ⟨rfl, .refl s⟩
  obtain ⟨p, limit, stand, turn⟩ := seat
  cases move with
  | call c =>
    cases stand with
    | bound =>
      obtain ⟨hold, outline⟩ := call_keeps p limit (s.queue p.handle) c
      exact .inl ⟨holding_of_hold ⟨p, limit, .bound, turn⟩ hold .bound rfl,
        .setQueue outline⟩
    | _ => exact .inl still
  | unbind failed =>
    cases stand with
    | bound =>
      cases failed with
      | true => exact .inl ⟨rfl, .refl s⟩
      | false => exact .inl ⟨rfl, .refl s⟩
    | _ => exact .inl still
  | close live =>
    cases stand with
    | closing failed point =>
      obtain ⟨hold, went⟩ := Producer.closeStep_cases p s failed live point
      simp only [step]
      rcases went with ⟨goesOn, keeps⟩ | ⟨⟨result, ended⟩, t, keeps, dropped⟩
      · left
        refine ⟨holding_of_hold ⟨p, limit, .closing failed point, turn⟩ hold _ ?_, keeps⟩
        cases step : (p.closeStep s failed live point).2.2 with
        | ended result => exact absurd step (goesOn result)
        | _ => rfl
      · right
        refine ⟨rfl, ?_, t, keeps, dropped⟩
        rw [ended]
        have handle : (p.closeStep s failed live point).1.handle = p.handle := congrArg Prod.fst hold
        have session : (p.closeStep s failed live point).1.session = p.session :=
          congrArg Prod.snd hold
        simp only [holding, handle, session, Holding.close]
        rfl
    | _ => exact .inl still
  | wake timely =>
    cases stand with
    | asleep failed pass => exact .inl ⟨rfl, .refl s⟩
    | _ => exact .inl still
  | giveUp live =>
    cases stand with
    | asleep failed pass =>
      simp only [step]
      cases live.check with
      | ok _ => exact .inl still
      | error cause =>
        obtain ⟨hold, t, keeps, dropped⟩ := p.abandon_drops s
        exact .inr ⟨rfl, rfl, t, keeps, dropped⟩
    | _ => exact .inl still

end ProducerSeat

namespace ConsumerSeat

theorem read_steady (seat : ConsumerSeat) (canWait : Bool) (point : ReadPoint) (q : Queue) :
    (seat.read canWait point q).1.holding = seat.holding ∧
      (seat.read canWait point q).2.outline = q.outline := by
  obtain ⟨outline, place⟩ := seat.consumer.readStep_steady canWait point q
  refine ⟨?_, outline⟩
  simp only [read]
  cases (seat.consumer.readStep canWait point q).2.2 with
  | ended result =>
    rcases place with same | same
    · rw [after, holding, same]
      rfl
    · rw [after, holding, same]
      rfl
  | sleeps next =>
    rcases place with same | same
    · rw [after, holding, same]
      rfl
    · rw [after, holding, same]
      rfl

/-- A consumer works on its queue, and keeps what it holds unless it is let go of. -/
theorem step_cases (seat : ConsumerSeat) (q : Queue) (move : ConsumerMove) :
    (seat.step q move).2.outline = q.outline ∧
      ((seat.step q move).1.holding = seat.holding ∨
        move = .drop ∧ (seat.step q move).1.holding = seat.holding.close) := by
  have still : q.outline = q.outline ∧ (seat.holding = seat.holding ∨
      move = .drop ∧ seat.holding = seat.holding.close) := ⟨rfl, .inl rfl⟩
  obtain ⟨c, reading, isOpen, turn⟩ := seat
  cases isOpen with
  | false => exact still
  | true =>
    cases move with
    | read canWait =>
      cases reading with
      | none =>
        obtain ⟨holding, outline⟩ := read_steady ⟨c, none, true, turn⟩ canWait .row q
        exact ⟨outline, .inl holding⟩
      | some point => exact still
    | resume =>
      cases reading with
      | none => exact still
      | some point =>
        obtain ⟨holding, outline⟩ := read_steady ⟨c, some point, true, turn⟩ true point q
        exact ⟨outline, .inl holding⟩
    | abandon live =>
      cases reading with
      | none => exact still
      | some point =>
        simp only [step]
        cases live.check with
        | ok _ => exact still
        | error cause => exact ⟨rfl, .inl rfl⟩
    | leave =>
      cases reading with
      | none =>
        refine ⟨Consumer.reset_outline .., .inl ?_⟩
        simp only [step, Consumer.reset_place]
        rfl
      | some point => exact still
    | drop =>
      cases reading with
      | none => exact ⟨Consumer.drop_outline .., .inr ⟨rfl, rfl⟩⟩
      | some point => exact still

end ConsumerSeat

end RecordExchange
