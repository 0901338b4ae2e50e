import RecordExchange.Proofs.Commons.Ledger

set_option autoImplicit false

/-!
Every move of the commons is a step of their ledger.

That the steps say all there is to say about a move rests on the tables agreeing and on every handle
naming places that exist; both hold from the start and are kept by every move, whoever makes it.
-/

namespace RecordExchange

namespace Ledger

variable {l after : Ledger} {n : Nat} {move : Move}

/-- The tables agree, and whoever holds on to something names places among the first `n`. -/
structure Sound (l : Ledger) (n : Nat) : Prop where
  consistent : l.register.Consistent
  producers : ∀ held ∈ l.producers, held.handle.Inside n
  consumers : ∀ held ∈ l.consumers, held.handle.Inside n

theorem holding_inside (consistent : l.register.Consistent) (within : l.register.Within n)
    {i : Nat} {name : String} (named : (l.register.title i).isNamed name = true)
    (session : Session) : (l.holding i name session).handle.Inside n := by
  have live := (Title.isNamed_iff.mp named).1
  exact ⟨within.entries i live, within.blocks _ i (consistent.served i live)⟩

section Handles

/-! What all handles that somebody holds on to have in common. -/

variable (P : Handle → Prop) {held : List Holding}

theorem handles_append {more : Holding} (all : ∀ h ∈ held, P h.handle) (last : P more.handle) :
    ∀ h ∈ held ++ [more], P h.handle := by
  intro h member
  rcases List.mem_append.mp member with before | new
  · exact all h before
  · rw [List.mem_singleton.mp new]
    exact last

theorem handles_set {closed : Holding} {k : Nat} (all : ∀ h ∈ held, P h.handle)
    (here : held[k]? = some closed) : ∀ h ∈ held.set k closed.close, P h.handle := by
  intro h member
  rcases List.mem_or_eq_of_mem_set member with before | same
  · exact all h before
  · rw [same]
    exact all closed (List.mem_of_getElem? here)

end Handles

theorem Step.sound (step : Step l move after) (sound : l.Sound n)
    (within : l.register.Within n) : after.Sound n := by
  obtain ⟨consistent, producers, consumers⟩ := sound
  cases step with
  | quiet => exact ⟨consistent, producers, consumers⟩
  | create valid place pool absent =>
    exact ⟨consistent.layOut valid place pool absent, producers, consumers⟩
  | join => exact ⟨consistent.setReferences _ _, producers, consumers⟩
  | takeProducer named =>
    exact ⟨consistent.setReferences _ _,
      handles_append (·.Inside n) producers (holding_inside consistent within named _), consumers⟩
  | takeConsumer named =>
    exact ⟨consistent, producers,
      handles_append (·.Inside n) consumers (holding_inside consistent within named _)⟩
  | give => exact ⟨consistent.drop _ _, producers, consumers⟩
  | giveNothing => exact ⟨consistent, producers, consumers⟩
  | settle here => exact ⟨consistent.drop _ _, handles_set (·.Inside n) producers here, consumers⟩
  | leave here => exact ⟨consistent, producers, handles_set (·.Inside n) consumers here⟩

end Ledger

theorem Segment.claimFault?_eq_none {g : Geometry} {name : String} {consumers : Nat} :
    Segment.claimFault? g name consumers = none ↔
      isQueueName name = true ∧ consumers ≠ 0 ∧ consumers ≤ g.maxConsumers := by
  rw [Segment.claimFault?]
  cases isQueueName name with
  | false => simp
  | true => simp [not_or]

namespace Commons

variable {x : Commons} {move : Move} {t : Segment} {h : Handle}

/-- The segment is built for the sizes its views work with, and its ledger is sound. -/
structure Founded (x : Commons) : Prop where
  built : x.memory.Built x.geometry
  sound : x.ledger.Sound x.geometry.maxQueues

theorem start_vacant (c : Config) (creator : ProcessId) (i : Nat) :
    ¬ ((start c creator).ledger.register.title i).live = true := by
  have free := (Segment.create_register c creator i).1
  exact fun live => Bool.false_ne_true (free.symm.trans live)

theorem Founded.start (c : Config) (creator : ProcessId) : (start c creator).Founded := by
  have vacant := start_vacant c creator
  refine ⟨Segment.create_built c creator, ⟨?_, ?_, ?_⟩, nofun, nofun⟩
  · exact fun i j live => absurd live (vacant i)
  · exact fun i live => absurd live (vacant i)
  · intro b i serves
    have free := (Segment.create_register c creator b).2
    exact nomatch free.symm.trans serves

theorem ledger_of_keeps (keeps : x.memory.Keeps t) : { x with memory := t }.ledger = x.ledger := by
  simp only [ledger, keeps.register, keeps.corrupted]

theorem ledger_of_drop (built : x.memory.Built x.geometry) (keeps : x.memory.Keeps t)
    (inside : h.Inside x.geometry.maxQueues) :
    { x with memory := t.dropReference h }.ledger = x.ledger.drop h.entry h.name := by
  have there := keeps.built _ built
  obtain ⟨register, corrupted⟩ :=
    Segment.register_dropReference there (there.has inside.1 inside.2)
  simp only [ledger, Ledger.drop, register, corrupted, keeps.register, keeps.corrupted]

theorem set_same {α : Type} {held : List α} {k : Nat} {value : α} (here : held[k]? = some value) :
    held.set k value = held := by
  obtain ⟨inside, rfl⟩ := List.getElem?_eq_some_iff.mp here
  exact List.set_getElem_self inside

theorem named_handle {i : Nat} {name : String}
    (named : (x.memory.register.title i).isNamed name = true) :
    x.memory.handleAt i = ⟨i, (x.memory.register.title i).block, name⟩ := by
  have same := (Title.isNamed_iff.mp named).2
  rw [← same]
  rfl

/-- A claim changes nothing, lays a queue out in a free place, or joins the queue of its name. -/
theorem acquire_cases (x : Commons) (live : Liveness) (session : Session) (name : String)
    (consumers : Nat) :
    x.acquire live session name consumers = x ∨
      (∃ i b, Segment.claimFault? x.geometry name consumers = none ∧
        x.memory.find? x.geometry.maxQueues name = none ∧
        x.memory.freeEntry? x.geometry.maxQueues = some i ∧
        x.memory.freeBlock? x.geometry.maxQueues = some b ∧
        LengthWord.size < ringLength x.geometry.queueSize consumers ∧
        x.acquire live session name consumers =
          { x with
              memory := x.memory.setQueueAt i b
                ⟨(x.memory.queueAt i b).entry.format name consumers
                    (ringLength x.geometry.queueSize consumers) b,
                  (x.memory.queueAt i b).sync.assign i consumers⟩
              claims := (session, name) :: x.claims
              laidOut := Function.update x.laidOut i (name :: x.laidOut i) }) ∨
      ∃ i, x.memory.find? x.geometry.maxQueues name = some i ∧
        x.acquire live session name consumers =
          { x with
              memory := x.memory.setQueue (x.memory.handleAt i)
                (x.memory.queue (x.memory.handleAt i)).addReference
              claims := (session, name) :: x.claims } := by
  cases accepted : Segment.claimFault? x.geometry name consumers with
  | some fault => exact .inl (by simp only [acquire, accepted])
  | none =>
    rcases x.memory.tryAcquire_cases x.geometry live session name consumers with
      ⟨result, other, looked⟩ | ⟨i, b, missing, place, pool, room, looked⟩ | ⟨i, found, looked⟩
    · left
      match result with
      | .error cause => simp only [acquire, accepted, looked]
      | .ok .held => exact absurd rfl other
      | .ok .stale => simp only [acquire, accepted, looked]
    · have laid : x.layingOut name = Function.update x.laidOut i (name :: x.laidOut i) := by
        rw [layingOut, missing, place]
      exact .inr (.inl ⟨i, b, rfl, missing, place, pool, room,
        by simp only [acquire, accepted, looked, laid]⟩)
    · have laid : x.layingOut name = x.laidOut := by rw [layingOut, found]
      exact .inr (.inr ⟨i, found, by simp only [acquire, accepted, looked, laid]⟩)

section Moves

variable (founded : x.Founded)
include founded

theorem named_inside {i : Nat} {name : String}
    (named : (x.memory.register.title i).isNamed name = true) :
    (x.memory.handleAt i).Inside x.geometry.maxQueues := by
  rw [named_handle named]
  exact Ledger.holding_inside (l := x.ledger) founded.sound.consistent founded.built.within named
    default

theorem register_addReference {i : Nat} {name : String} {q : Queue}
    (named : (x.memory.register.title i).isNamed name = true) {producer : Session}
    (more : q.outline =
      { (x.memory.queue (x.memory.handleAt i)).addReference.outline with producer }) :
    (x.memory.setQueue (x.memory.handleAt i) q).register = (x.ledger.addReference i).register := by
  obtain ⟨entry, block⟩ := named_inside founded named
  exact Segment.register_setReferences (founded.built.has entry block) _
    (congrArg Outline.title more) (congrArg Outline.serves more)

theorem acquire_step (live : Liveness) (session : Session) (name : String) (consumers : Nat) :
    Ledger.Step x.ledger (.acquire live session name consumers)
        (x.acquire live session name consumers).ledger ∧
      (x.acquire live session name consumers).memory.Built x.geometry := by
  rcases x.acquire_cases live session name consumers with
    same | ⟨i, b, accepted, missing, place, pool, -, made⟩ | ⟨i, found, made⟩
  · rw [same]
    exact ⟨.quiet _, founded.built⟩
  · obtain ⟨valid, -, few⟩ := Segment.claimFault?_eq_none.mp accepted
    have laid := Segment.register_format founded.built place pool name consumers
      (ringLength x.geometry.queueSize consumers)
    rw [made]
    refine ⟨?_, founded.built.format i b name few _⟩
    simp only [ledger, laid]
    exact .create (l := x.ledger) valid (Segment.freeEntry?_some place).2
      (Segment.freeBlock?_some pool).2 (Segment.find?_none founded.built missing)
  · have named := (Segment.find?_some found).2
    have joined := register_addReference founded named (q := _) rfl
    rw [made]
    simp only [ledger, joined]
    exact ⟨.join (l := x.ledger) named, founded.built.setQueue (founded.built.slots _) rfl⟩

theorem bind_step (live : Liveness) (session : Session) (name : String)
    (consumerNodes distribution : List NodeId) (limit : Nat) :
    Ledger.Step x.ledger (.bind live session name consumerNodes distribution limit)
        (x.bind live session name consumerNodes distribution limit).ledger ∧
      (x.bind live session name consumerNodes distribution limit).memory.Built x.geometry := by
  rw [bind]
  rcases x.memory.bind_cases x.geometry live session name consumerNodes distribution with
    ⟨t, cause, keeps, failed⟩ | ⟨i, q, p, found, more, handle, own, bound⟩ |
      ⟨i, t, c, found, keeps, handle, own, bound⟩
  · rw [failed]
    dsimp only
    rw [ledger_of_keeps keeps]
    exact ⟨.quiet _, keeps.built _ founded.built⟩
  · rw [bound]
    have named := (Segment.find?_some found).2
    have taken := register_addReference founded named more
    rw [named_handle named] at handle
    have holding : (ProducerSeat.mk p limit .bound (x.turn p.handle.entry)).holding =
        x.ledger.holding i name session := by
      simp only [ProducerSeat.holding, handle, own]
      rfl
    simp only [ledger, taken, List.map_append, List.map_cons, List.map_nil, holding]
    refine ⟨.takeProducer (l := x.ledger) named, founded.built.setQueue ?_ ?_⟩
    · have slots := congrArg Outline.slots more
      exact Nat.le_trans (Nat.le_of_eq slots) (founded.built.slots _)
    · exact congrArg Outline.latches more
  · rw [bound]
    have named := (Segment.find?_some found).2
    rw [named_handle named] at handle
    have holding : (ConsumerSeat.mk c none true (x.turn c.handle.entry)).holding =
        x.ledger.holding i name session := by
      simp only [ConsumerSeat.holding, handle, own]
      rfl
    simp only [ledger, keeps.register, keeps.corrupted, List.map_append, List.map_cons,
      List.map_nil, holding]
    exact ⟨.takeConsumer (l := x.ledger) named, keeps.built _ founded.built⟩

theorem release_step (live : Liveness) (session : Session) (name : String) :
    Ledger.Step x.ledger (.release live session name) (x.release live session name).ledger ∧
      (x.release live session name).memory.Built x.geometry := by
  rw [release]
  rcases x.memory.release_cases x.geometry live session name with
    ⟨cause, failed⟩ | ⟨missing, nothing⟩ | ⟨i, t, found, keeps, released⟩
  · rw [failed]
    exact ⟨.quiet _, founded.built⟩
  · rw [nothing]
    exact ⟨.giveNothing (l := x.ledger) (Segment.find?_none founded.built missing), founded.built⟩
  · rw [released]
    have named := (Segment.find?_some found).2
    have dropped := ledger_of_drop founded.built keeps (named_inside founded named)
    rw [named_handle named] at dropped ⊢
    refine ⟨?_, (keeps.built _ founded.built).dropReference _⟩
    have given : Ledger.Step x.ledger (.release live session name)
        { x.ledger.drop i name with claims := x.ledger.claims.erase (session, name) } :=
      .give (l := x.ledger) named
    rw [← dropped] at given
    exact given

theorem produce_step (k : Nat) (move : ProducerMove) :
    Ledger.Step x.ledger (.produce k move) (x.produce k move).ledger ∧
      (x.produce k move).memory.Built x.geometry := by
  rw [produce]
  cases here : x.producers[k]? with
  | none => exact ⟨.quiet _, founded.built⟩
  | some seat =>
    have held : x.ledger.producers[k]? = some seat.holding := by
      change (x.producers.map ProducerSeat.holding)[k]? = _
      rw [List.getElem?_map, here]
      rfl
    rcases seat.step_cases x.memory move with ⟨same, keeps⟩ | ⟨opened, closed, t, keeps, dropped⟩
    · dsimp only
      have listed : (x.producers.set k (seat.step x.memory move).1).map ProducerSeat.holding =
          x.producers.map ProducerSeat.holding := by
        rw [List.map_set, same]
        exact set_same held
      refine ⟨?_, keeps.built _ founded.built⟩
      simp only [ledger, listed, keeps.register, keeps.corrupted]
      exact .quiet _
    · dsimp only
      have inside : seat.producer.handle.Inside x.geometry.maxQueues :=
        founded.sound.producers _ (List.mem_of_getElem? held)
      have given := ledger_of_drop founded.built keeps inside
      have listed : (x.producers.set k (seat.step x.memory move).1).map ProducerSeat.holding =
          x.ledger.producers.set k seat.holding.close := by
        rw [List.map_set, closed]
        rfl
      rw [dropped]
      refine ⟨?_, (keeps.built _ founded.built).dropReference _⟩
      have settled : Ledger.Step x.ledger (.produce k move) _ := .settle held opened
      have handle : seat.holding.handle = seat.producer.handle := rfl
      rw [handle, ← given, ← listed] at settled
      exact settled

theorem consume_step (k : Nat) (move : ConsumerMove) :
    Ledger.Step x.ledger (.consume k move) (x.consume k move).ledger ∧
      (x.consume k move).memory.Built x.geometry := by
  rw [consume]
  cases here : x.consumers[k]? with
  | none => exact ⟨.quiet _, founded.built⟩
  | some seat =>
    have held : x.ledger.consumers[k]? = some seat.holding := by
      change (x.consumers.map ConsumerSeat.holding)[k]? = _
      rw [List.getElem?_map, here]
      rfl
    obtain ⟨outline, went⟩ := seat.step_cases (x.memory.queue seat.consumer.handle) move
    have keeps : x.memory.Keeps _ := .setQueue outline
    dsimp only
    refine ⟨?_, keeps.built _ founded.built⟩
    simp only [ledger, keeps.register, keeps.corrupted, List.map_set]
    rcases went with same | ⟨rfl, closed⟩
    · rw [same, set_same (by rw [List.getElem?_map, here]; rfl)]
      exact .quiet _
    · rw [closed]
      exact .leave (l := x.ledger) held

/-- Every move is a step of the ledger, and leaves the segment built as it was. -/
theorem perform_step (move : Move) :
    Ledger.Step x.ledger move (x.perform move).ledger ∧
      (x.perform move).memory.Built x.geometry := by
  cases move with
  | acquire live session name consumers => exact acquire_step founded ..
  | bind live session name consumerNodes distribution limit => exact bind_step founded ..
  | release live session name => exact release_step founded ..
  | disconnect live session name =>
    have keeps := x.memory.disconnectConsumer_keeps x.geometry live session name
    refine ⟨?_, keeps.built _ founded.built⟩
    change Ledger.Step x.ledger _ { x with memory := _ }.ledger
    rw [ledger_of_keeps keeps]
    exact .quiet _
  | produce k move => exact produce_step founded ..
  | consume k move => exact consume_step founded ..

end Moves

theorem perform_geometry (x : Commons) (move : Move) : (x.perform move).geometry = x.geometry := by
  cases move with
  | acquire live session name consumers =>
    simp only [perform, acquire]
    split
    · rfl
    · split
      · rfl
      · rfl
  | bind live session name consumerNodes distribution limit =>
    simp only [perform, bind]
    split
    · rfl
    · rfl
    · rfl
  | release live session name =>
    simp only [perform, release]
    split
    · rfl
    · rfl
  | disconnect live session name => rfl
  | produce k move =>
    simp only [perform, produce]
    split
    · rfl
    · rfl
  | consume k move =>
    simp only [perform, consume]
    split
    · rfl
    · rfl

theorem Founded.perform (founded : x.Founded) (move : Move) : (x.perform move).Founded := by
  obtain ⟨step, built⟩ := perform_step founded move
  refine ⟨?_, ?_⟩
  · rw [perform_geometry]
    exact built
  · rw [perform_geometry]
    exact step.sound founded.sound founded.built.within

/-- What holds at the start and is kept by every move holds after every run. -/
theorem run_induction {motive : Commons → Prop} (start : motive x)
    (step : ∀ y move, motive y → motive (y.perform move)) (moves : List Move) :
    motive (x.run moves) := by
  induction moves generalizing x with
  | nil => exact start
  | cons move rest ih => exact ih (step x move start)

theorem run_append (x : Commons) (first second : List Move) :
    x.run (first ++ second) = (x.run first).run second := List.foldl_append

theorem along_concat {P : Commons → Move → Prop} (x : Commons) (moves : List Move) (move : Move) :
    Along P x (moves ++ [move]) ↔ Along P x moves ∧ P (x.run moves) move := by
  induction moves generalizing x with
  | nil => exact ⟨fun along => ⟨trivial, along.1⟩, fun along => ⟨along.2, trivial⟩⟩
  | cons first rest ih =>
    exact ((and_congr_right_iff).mpr fun _ => ih (x.perform first)).trans and_assoc.symm

theorem Founded.run (founded : x.Founded) (moves : List Move) : (x.run moves).Founded :=
  run_induction founded (fun _ move before => before.perform move) moves

theorem run_geometry (x : Commons) (moves : List Move) : (x.run moves).geometry = x.geometry :=
  run_induction (motive := fun y => y.geometry = x.geometry) rfl
    (fun y move before => (perform_geometry y move).trans before) moves

end Commons

end RecordExchange
