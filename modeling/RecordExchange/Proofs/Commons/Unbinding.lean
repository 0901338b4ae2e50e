import RecordExchange.Proofs.Commons.Settling

set_option autoImplicit false

/-!
A producer gives up its reference once.

As long as sessions give up no more claims than they made, a producer that has not let go of its
queue still has that queue, with a reference in it that is its own. The step that ends its call
gives up this reference and settles the queue; no other step of the producer touches the count, and
after its last step it does nothing any more.
-/

namespace RecordExchange

/-- From `s` to `t` one reference to the queue in a handle was given up. The queue is gone and its
block free exactly if that was the last one, and all other queues are as they were. -/
structure Segment.GivesUp (s t : Segment) (h : Handle) : Prop where
  lowered : (t.entries.getD h.entry default).references.toNat + 1 =
    (s.entries.getD h.entry default).references.toNat
  removed : (t.entries.getD h.entry default).live = false ↔
    (t.entries.getD h.entry default).references.toNat = 0
  freed : (t.blocks.getD h.block default).queue = none ↔
    (t.entries.getD h.entry default).references.toNat = 0
  entries : ∀ e, e ≠ h.entry →
    (t.entries.getD e default).title = (s.entries.getD e default).title
  blocks : ∀ b, b ≠ h.block → (t.blocks.getD b default).queue = (s.blocks.getD b default).queue

/-- A producer that was bound holds nothing back, with a place for each slot. -/
theorem Segment.bound_producer {s t : Segment} {g : Geometry} {live : Liveness} {session : Session}
    {name : String} {consumerNodes distribution : List NodeId} {p : Producer}
    (bound : s.bind g live session name consumerNodes distribution = (t, .ok (.producer p))) :
    ∃ i q mapping, s.find? g.maxQueues name = some i ∧
      p = Producer.start (s.handleAt i) session mapping q.consumers ∧
      t = s.setQueue (s.handleAt i) q := by
  unfold Segment.bind at bound
  split at bound
  · cases bound
  · split at bound
    · cases bound
    · rename_i i found
      dsimp only at bound
      split at bound
      · cases bound
        exact ⟨i, _, _, found, rfl, rfl⟩
      · split at bound
        · cases bound
        · cases bound

namespace Commons

variable {x : Commons}

/-- A session gives up no more claims than it made, and no count overflows. -/
def Modest (x : Commons) (move : Move) : Prop := x.ledger.Modest (x.perform move).ledger move

instance (x : Commons) (move : Move) : Decidable (x.Modest move) :=
  inferInstanceAs (Decidable (x.ledger.Modest (x.perform move).ledger move))

/-- Every producer that was bound to what a place holds now is tidy. -/
def Tended (x : Commons) : Prop :=
  ∀ seat ∈ x.producers, seat.turn ≤ x.turn seat.producer.handle.entry ∧
    (x.turn seat.producer.handle.entry = seat.turn → seat.Tidy x.memory)

theorem mem_produce {k : Nat} {move : ProducerMove} {after : ProducerSeat}
    (member : after ∈ (x.produce k move).producers) :
    after ∈ x.producers ∨
      ∃ seat, x.producers[k]? = some seat ∧ after = (seat.step x.memory move).1 := by
  unfold produce at member
  cases here : x.producers[k]? with
  | none =>
    rw [here] at member
    exact .inl member
  | some seat =>
    rw [here] at member
    rcases List.mem_or_eq_of_mem_set member with before | same
    · exact .inl before
    · exact .inr ⟨seat, rfl, same⟩

theorem producers_perform (founded : x.Founded) {move : Move}
    (other : ∀ k own, move ≠ .produce k own) :
    (x.perform move).producers = x.producers ∨
      ∃ p limit, (x.perform move).producers =
          x.producers ++ [⟨p, limit, .bound, x.turn p.handle.entry⟩] ∧
        (∀ i, p.held i = none) ∧ p.Sized ((x.perform move).memory.queue p.handle) ∧
        ∀ e, (x.perform move).turn e = x.turn e := by
  cases move with
  | acquire live session name consumers =>
    left
    simp only [perform, acquire]
    split
    · rfl
    · split
      · rfl
      · rfl
  | bind live session name consumerNodes distribution limit =>
    simp only [perform, bind]
    split
    · rename_i t p bound
      right
      obtain ⟨i, q, mapping, found, rfl, rfl⟩ := Segment.bound_producer bound
      refine ⟨_, limit, rfl, fun i => Producer.start_held .., ?_, fun e => rfl⟩
      unfold Producer.Sized
      dsimp only
      rw [show (Producer.start (x.memory.handleAt i) session mapping q.consumers).handle =
        x.memory.handleAt i from rfl, (serves_found founded found).has.queue_setQueue]
      exact Array.size_replicate
    · exact .inl rfl
    · exact .inl rfl
  | release live session name =>
    left
    simp only [perform, release]
    split
    · rfl
    · rfl
  | disconnect live session name => exact .inl rfl
  | produce k move => exact absurd rfl (other k move)
  | consume k move =>
    left
    simp only [perform, consume]
    split
    · rfl
    · rfl

theorem Tended.perform (tended : x.Tended) (founded : x.Founded) (move : Move) :
    (x.perform move).Tended := by
  -- a place that is laid out anew is no concern of those who were bound before
  have kept {seat : ProducerSeat} (member : seat ∈ x.producers) :
      seat.turn ≤ (x.perform move).turn seat.producer.handle.entry ∧
        ((x.perform move).turn seat.producer.handle.entry = seat.turn →
          seat.Tidy (x.perform move).memory) := by
    obtain ⟨before, tidy⟩ := tended seat member
    have grows := turn_le_perform founded move seat.producer.handle.entry
    refine ⟨Nat.le_trans before grows, fun now => ?_⟩
    have same : (x.perform move).turn seat.producer.handle.entry =
        x.turn seat.producer.handle.entry := by omega
    exact (tidy (by omega)).livesOn (perform_livesOn founded move same)
  intro after member
  by_cases own : ∃ k step, move = .produce k step
  · obtain ⟨k, step, rfl⟩ := own
    rcases mem_produce member with before | ⟨seat, here, rfl⟩
    · exact kept before
    · have member' := List.mem_of_getElem? here
      obtain ⟨before, tidy⟩ := tended seat member'
      have serves := serves_producer founded member'
      have turns (e : Nat) : (x.perform (.produce k step)).turn e = x.turn e := by
        unfold turn
        rw [perform_laidOut x fun _ _ _ _ => Move.noConfusion]
      have hold : (seat.step x.memory step).1.producer.handle = seat.producer.handle ∧
          (seat.step x.memory step).1.turn = seat.turn := by
        rcases seat.step_cases x.memory step with ⟨same, -⟩ | ⟨-, closed, -⟩
        · exact ⟨congrArg Holding.handle same, congrArg Holding.turn same⟩
        · exact ⟨congrArg Holding.handle closed, congrArg Holding.turn closed⟩
      have memory : (x.perform (.produce k step)).memory = (seat.step x.memory step).2 := by
        simp only [Commons.perform, produce, here]
      rw [hold.1, hold.2, turns, memory]
      exact ⟨before, fun now => (tidy now).step serves step⟩
  · rcases producers_perform founded (fun k step same => own ⟨k, step, same⟩) with
      same | ⟨p, limit, added, empty, sized, turns⟩
    · rw [same] at member
      exact kept member
    · rw [added] at member
      rcases List.mem_append.mp member with before | new
      · exact kept before
      · rw [List.mem_singleton.mp new]
        refine ⟨Nat.le_of_eq (turns _).symm, fun _ => ⟨sized, fun _ => empty,
          fun _ stands => by cases stands⟩⟩

theorem Tended.run (tended : x.Tended) (founded : x.Founded) (moves : List Move) :
    (x.run moves).Tended := by
  have both := run_induction (motive := fun y => y.Founded ∧ y.Tended) ⟨founded, tended⟩
    (fun y move before => ⟨before.1.perform move, before.2.perform before.1 move⟩) moves
  exact both.2

section Counting

/-- References to the queue that producer `k` was bound to, while its place holds it. -/
def referencesOf (x : Commons) (k : Nat) : Nat :=
  x.producers[k]?.elim 0 fun seat =>
    (x.memory.entries.getD seat.producer.handle.entry default).references.toNat

/-- By how much a move, if it is one of producer `k`, lowers the count of its queue. -/
def lowers (x : Commons) (k : Nat) : Move → Int
  | .produce n move =>
    if n = k then x.referencesOf k - (x.produce n move).referencesOf k else 0
  | _ => 0

/-- By how much the moves of producer `k` lower the count of its queue in a run, all in all. -/
def loweredBy (k : Nat) : Commons → List Move → Int
  | _, [] => 0
  | x, move :: rest => x.lowers k move + loweredBy k (x.perform move) rest

/-- One once producer `k` has let go of its queue. -/
def letGo (x : Commons) (k : Nat) : Int :=
  x.producers[k]?.elim 0 fun seat => if seat.isOpen then 0 else 1

/-- A producer's move is of no concern to the registry, or it gives up the producer's reference,
once and for all. -/
theorem produce_givesUp (founded : x.Founded) (balanced : x.ledger.withoutConsumers.Balanced)
    {k : Nat} {seat : ProducerSeat} (here : x.producers[k]? = some seat) (move : ProducerMove) :
    (seat.step x.memory move).1.isOpen = seat.isOpen ∧
        (x.produce k move).memory.register = x.memory.register ∨
      seat.isOpen = true ∧ (seat.step x.memory move).1.isOpen = false ∧
        x.memory.GivesUp (x.produce k move).memory seat.producer.handle := by
  have after : (x.produce k move).producers[k]? = some (seat.step x.memory move).1 := by
    have inside := (List.getElem?_eq_some_iff.mp here).1
    simp only [produce, here, List.getElem?_set_self inside]
  have closed {l : Ledger} (same : (x.produce k move).ledger = l) :
      l.producers[k]? = some (seat.step x.memory move).1.holding := by
    rw [← same]
    change ((x.produce k move).producers.map ProducerSeat.holding)[k]? = _
    rw [List.getElem?_map, after]
    rfl
  have held : x.ledger.producers[k]? = some seat.holding := by
    change (x.producers.map ProducerSeat.holding)[k]? = _
    rw [List.getElem?_map, here]
    rfl
  have step := (produce_step founded k move).1
  generalize taken : (x.produce k move).ledger = l at step
  have now := closed taken
  cases step with
  | quiet =>
    rw [held, Option.some_inj] at now
    exact .inl ⟨congrArg Holding.isOpen now.symm, congrArg Ledger.register taken⟩
  | @settle _ _ own found opened =>
    rw [held, Option.some_inj] at found
    subst found
    have inside := (List.getElem?_eq_some_iff.mp held).1
    rw [List.getElem?_set_self (by exact inside), Option.some_inj] at now
    have register : (x.produce k move).memory.register =
        (x.memory.register.drop seat.producer.handle.entry seat.producer.handle.name).1 :=
      congrArg Ledger.register taken
    have holds := balanced.producers seat.holding (List.mem_of_getElem? held) opened
    obtain ⟨live, name⟩ := Title.isNamed_iff.mp holds.named
    have served := founded.sound.consistent.served _ live
    have some := balanced.claimed _ live
    rw [← balanced.counted _ live] at some
    obtain ⟨lowered, removed, freed, entries, blocks⟩ :=
      Register.drop_held holds.named served some
    have block : (x.memory.register.title seat.producer.handle.entry).block =
        seat.producer.handle.block := holds.block
    refine .inr ⟨opened, congrArg Holding.isOpen now.symm, ?_⟩
    have entry (e : Nat) : ((x.produce k move).memory.entries.getD e default).title =
        (x.memory.register.drop seat.producer.handle.entry seat.producer.handle.name).1.title e :=
      congrArg (fun r => r.title e) register
    have queue (b : Nat) : ((x.produce k move).memory.blocks.getD b default).queue =
        (x.memory.register.drop seat.producer.handle.entry seat.producer.handle.name).1.serves b :=
      congrArg (fun r => r.serves b) register
    have count := congrArg Title.references (entry seat.producer.handle.entry)
    have there := congrArg Title.live (entry seat.producer.handle.entry)
    simp only [Entry.title] at count there
    refine ⟨?_, ?_, ?_, ?_, ?_⟩
    · rw [count]
      exact lowered
    · rw [count, there]
      exact removed
    · rw [count, queue, ← block]
      exact freed
    · intro e other
      rw [entry]
      exact entries e other
    · intro b other
      rw [queue]
      exact blocks b (block ▸ other)

theorem produce_letGo (founded : x.Founded) (balanced : x.ledger.withoutConsumers.Balanced)
    (k : Nat) (move : ProducerMove) :
    (x.referencesOf k : Int) - (x.produce k move).referencesOf k =
      (x.produce k move).letGo k - x.letGo k := by
  cases here : x.producers[k]? with
  | none =>
    rw [produce_none here]
    omega
  | some seat =>
    have inside := (List.getElem?_eq_some_iff.mp here).1
    have after : (x.produce k move).producers[k]? = some (seat.step x.memory move).1 := by
      simp only [produce, here, List.getElem?_set_self inside]
    have handle : (seat.step x.memory move).1.producer.handle = seat.producer.handle := by
      rcases seat.step_cases x.memory move with ⟨same, -⟩ | ⟨-, closed, -⟩
      · exact congrArg Holding.handle same
      · exact congrArg Holding.handle closed
    simp only [referencesOf, letGo, here, after, Option.elim_some, handle]
    rcases produce_givesUp founded balanced here move with
      ⟨same, register⟩ | ⟨opened, closed, given⟩
    · have count : ((x.produce k move).memory.entries.getD seat.producer.handle.entry
          default).references =
          (x.memory.entries.getD seat.producer.handle.entry default).references :=
        congrArg (fun r => (r.title seat.producer.handle.entry).references) register
      rw [count, same]
      omega
    · have lowered := given.lowered
      simp only [opened, closed, ↓reduceIte, Bool.false_eq_true]
      omega

theorem perform_letGo (founded : x.Founded) {move : Move}
    (other : ∀ k own, move ≠ .produce k own) (k : Nat) : (x.perform move).letGo k = x.letGo k := by
  rcases producers_perform founded other with same | ⟨p, limit, added, -⟩
  · unfold letGo
    rw [same]
  · unfold letGo
    rw [added]
    by_cases inside : k < x.producers.length
    · rw [List.getElem?_append_left inside]
    · have before : x.producers[k]? = none := List.getElem?_eq_none (by omega)
      rw [before, List.getElem?_append_right (by omega)]
      cases k - x.producers.length with
      | zero => rfl
      | succ more => rfl

/-- What a producer's move takes off the count shows in whether the producer has let go. -/
theorem lowers_eq (founded : x.Founded) (balanced : x.ledger.withoutConsumers.Balanced) (k : Nat)
    (move : Move) : x.lowers k move = (x.perform move).letGo k - x.letGo k := by
  have still (other : ∀ n own, move ≠ .produce n own) :
      (0 : Int) = (x.perform move).letGo k - x.letGo k := by
    rw [perform_letGo founded other k]
    omega
  cases move with
  | produce n own =>
    by_cases same : n = k
    · subst same
      simp only [lowers, ↓reduceIte]
      exact produce_letGo founded balanced n own
    · have kept : (x.produce n own).letGo k = x.letGo k := by
        unfold letGo produce
        split
        · rfl
        · rw [List.getElem?_set_ne same]
      simp only [lowers, same, ↓reduceIte, perform, kept]
      omega
  | _ => exact still fun _ _ => Move.noConfusion

theorem modest_perform (founded : x.Founded) (balanced : x.ledger.withoutConsumers.Balanced)
    {move : Move} (modest : x.Modest move) :
    (x.perform move).ledger.withoutConsumers.Balanced :=
  (perform_step founded move).1.balanced_withoutConsumers balanced founded.sound.consistent modest

theorem modest_run (founded : x.Founded) (balanced : x.ledger.withoutConsumers.Balanced)
    (moves : List Move) (modest : Along Modest x moves) :
    (x.run moves).ledger.withoutConsumers.Balanced := by
  induction moves generalizing x with
  | nil => exact balanced
  | cons move rest ih =>
    exact ih (founded.perform move) (modest_perform founded balanced modest.1) modest.2

/-- Along a run, the moves of a producer take one reference off the count of its queue if it lets go
on the way, and none otherwise. -/
theorem loweredBy_run (founded : x.Founded) (balanced : x.ledger.withoutConsumers.Balanced)
    (moves : List Move) (modest : Along Modest x moves) (k : Nat) :
    loweredBy k x moves = (x.run moves).letGo k - x.letGo k := by
  induction moves generalizing x with
  | nil =>
    change (0 : Int) = x.letGo k - x.letGo k
    omega
  | cons move rest ih =>
    have now := lowers_eq founded balanced k move
    have later := ih (founded.perform move) (modest_perform founded balanced modest.1) modest.2
    have runs : x.run (move :: rest) = (x.perform move).run rest := rfl
    rw [loweredBy, runs, now, later]
    omega

end Counting

/-- After every run of sessions that give up no more claims than they made, and for every producer
that was bound in it: all in all its moves have lowered the count of its queue by one if it has let
go, and by none if it has not. It lets go with the move that ends its call, whatever ends it, and
with that move one reference is given up, with the queue and its block going exactly if it was the
last one; its latch is disowned, nothing is held back, and no slot is active; and if it unbinds
without having failed and reports success, every slot is done. -/
theorem unbind_settles (c : Config) (creator : ProcessId) (moves : List Move)
    (modest : Along Modest (start c creator) moves) (k : Nat) (seat : ProducerSeat)
    (bound : ((start c creator).run moves).producers[k]? = some seat) :
    let x := (start c creator).run moves
    loweredBy k (start c creator) moves = (if seat.isOpen then 0 else 1) ∧
      ∀ move, ∃ after, (x.perform (.produce k move)).producers[k]? = some after ∧
        (after.isOpen = false ↔
          seat.isOpen = false ∨ (seat.ends x.memory move).isSome = true) ∧
        ∀ failed result, seat.ends x.memory move = some (failed, result) →
          x.memory.GivesUp (x.perform (.produce k move)).memory seat.producer.handle ∧
            (∀ i, after.producer.held i = none) ∧
            (x.perform (.produce k move)).memory.Settled seat.producer.handle
              (!failed && result.toBool) := by
  intro x
  have founded₀ := Founded.start c creator
  have vacant := start_vacant c creator
  have balanced₀ : (start c creator).ledger.withoutConsumers.Balanced :=
    ⟨rfl, fun i live => absurd live (vacant i), fun i live => absurd live (vacant i),
      fun name some => absurd some (Nat.lt_irrefl 0), nofun, nofun⟩
  have founded : x.Founded := founded₀.run moves
  have balanced : x.ledger.withoutConsumers.Balanced := modest_run founded₀ balanced₀ moves modest
  have tended₀ : (start c creator).Tended := fun _ member => absurd member List.not_mem_nil
  have tended : x.Tended := tended₀.run founded₀ moves
  refine ⟨?_, fun move => ?_⟩
  · have lowered := loweredBy_run founded₀ balanced₀ moves modest k
    have none : (start c creator).letGo k = 0 := rfl
    rw [lowered, none]
    unfold letGo
    rw [bound, Option.elim_some]
    omega
  · have inside := (List.getElem?_eq_some_iff.mp bound).1
    have after : (x.perform (.produce k move)).producers[k]? =
        some (seat.step x.memory move).1 := by
      simp only [perform, produce, x, bound, List.getElem?_set_self inside]
    have memory : (x.perform (.produce k move)).memory = (seat.step x.memory move).2 := by
      simp only [perform, produce, x, bound]
    have closes := seat.step_isOpen x.memory move
    refine ⟨_, after, closes, fun failed result ends => ?_⟩
    have member : seat ∈ x.producers := List.mem_of_getElem? bound
    have held : seat.holding ∈ x.ledger.producers := List.mem_map_of_mem member
    have closed : (seat.step x.memory move).1.isOpen = false := closes.mpr (.inr (by rw [ends]; rfl))
    rcases produce_givesUp founded balanced bound move with
      ⟨same, -⟩ | ⟨opened, -, given⟩
    · rw [closed] at same
      rw [ProducerSeat.ends_closed same.symm] at ends
      cases ends
    · have holds := balanced.producers seat.holding held opened
      have tidy := (tended seat member).2 holds.turn
      have serves := founded.built.serves (founded.sound.producers _ held)
      obtain ⟨empty, settled⟩ := tidy.ends serves ends
      rw [memory]
      exact ⟨memory ▸ given, empty, settled⟩

def waitsForReader : List Move :=
  [.acquire undisturbed ⟨100, 0⟩ "rows" 1, .acquire undisturbed ⟨101, 1⟩ "rows" 1,
    .bind undisturbed ⟨100, 0⟩ "rows" [1] [0, 1] 64,
    .bind undisturbed ⟨101, 1⟩ "rows" [1] [0, 1] 64,
    .produce 0 (.call (.write 0 [7])), .produce 0 (.unbind false),
    .produce 0 (.close undisturbed), .produce 0 (.close undisturbed)]

/-- The sleeping producer is asked to stop, and gives up its reference with its call. -/
theorem unbind_settles_askedToStop :
    let x := (start narrow 1).run waitsForReader
    let y := x.perform (.produce 0 (.giveUp ⟨true, 1, true⟩))
    Along Modest (start narrow 1) waitsForReader ∧
      ∃ seat, x.producers[0]? = some seat ∧
        seat.ends x.memory (.giveUp ⟨true, 1, true⟩) = some (false, .error .interrupted) ∧
        loweredBy 0 (start narrow 1) waitsForReader = 0 ∧
        x.memory.GivesUp y.memory seat.producer.handle ∧
        y.memory.Settled seat.producer.handle false := by
  have modest : Along Modest (start narrow 1) waitsForReader := by decide +kernel
  have asleep : ((start narrow 1).run waitsForReader).producers.map (fun seat =>
      (seat.isOpen, decide (seat.ends ((start narrow 1).run waitsForReader).memory
        (.giveUp ⟨true, 1, true⟩) = some (false, .error .interrupted)))) = [(true, true)] := by
    decide +kernel
  obtain ⟨seat, only, found⟩ := List.map_eq_singleton_iff.mp asleep
  simp only [Prod.mk.injEq, decide_eq_true_eq] at found
  obtain ⟨opened, ends⟩ := found
  have bound : ((start narrow 1).run waitsForReader).producers[0]? = some seat := by
    rw [only]
    rfl
  obtain ⟨lowered, settles⟩ := unbind_settles narrow 1 waitsForReader modest 0 seat bound
  obtain ⟨after, -, -, last⟩ := settles (.giveUp ⟨true, 1, true⟩)
  obtain ⟨given, -, settled⟩ := last false (.error .interrupted) ends
  refine ⟨modest, seat, bound, ends, ?_, given, settled⟩
  rw [lowered, opened]
  rfl

end Commons

end RecordExchange
