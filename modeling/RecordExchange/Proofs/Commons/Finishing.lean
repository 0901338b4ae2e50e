import RecordExchange.Proofs.Commons.Cursors
import RecordExchange.Proofs.Commons.Unbinding
import RecordExchange.Proofs.Queue.Finishing

set_option autoImplicit false

/-!
Announcing the end of the data, over whole runs.

What a bound producer holds back is always some record, and along a regular run no pass of finishing
fails. So the end of the data is announced to a slot only behind everything that was written for it,
and a pass that reports nothing as held back has nothing left to do. A session named zero undoes
this, and so does a reader that outlived its queue: they put a row where a chunk is due.
-/

namespace RecordExchange

theorem ProducerSeat.call_stocked {p : Producer} (stocked : p.IsStocked) (limit : Nat) (q : Queue)
    (c : ProducerCall) : (call p limit q c).1.IsStocked := by
  cases c with
  | write i record => exact Producer.write_stocked stocked limit q i record
  | finish => exact Producer.finish_stocked stocked q
  | drain =>
    change (p.drainStep q).1.IsStocked
    rw [Producer.drainStep_producer]
    exact Producer.finish_stocked stocked q
  | waited => exact stocked
  | canPause => exact stocked
  | reset => exact .of_none (Producer.dropOverflow_held p)
  | resetNotConnected => exact stocked

theorem ProducerSeat.step_stocked {seat : ProducerSeat} (stocked : seat.producer.IsStocked)
    (s : Segment) (move : ProducerMove) : (seat.step s move).1.producer.IsStocked := by
  obtain ⟨p, limit, stand, turn⟩ := seat
  cases move with
  | call c =>
    cases stand with
    | bound => exact call_stocked stocked limit (s.queue p.handle) c
    | _ => exact stocked
  | unbind failed =>
    cases stand with
    | bound =>
      cases failed with
      | true => exact .of_none (Producer.dropOverflow_held p)
      | false => exact stocked
    | _ => exact stocked
  | wake timely => cases stand <;> exact stocked
  | close live =>
    cases stand with
    | closing failed point => exact Producer.closeStep_stocked stocked s failed live point
    | _ => exact stocked
  | giveUp live =>
    cases stand with
    | asleep failed pass =>
      simp only [step]
      cases live.check with
      | ok _ => exact stocked
      | error cause => exact .of_none (Producer.dropOverflow_held p)
    | _ => exact stocked

namespace Commons

variable {x : Commons}

/-- Whatever a producer holds back is some record. -/
def Stores (x : Commons) : Prop := ∀ seat ∈ x.producers, seat.producer.IsStocked

theorem Stores.perform (stores : x.Stores) (founded : x.Founded) (move : Move) :
    (x.perform move).Stores := by
  intro after member
  by_cases own : ∃ k step, move = .produce k step
  · obtain ⟨k, step, rfl⟩ := own
    rcases mem_produce member with before | ⟨seat, here, rfl⟩
    · exact stores after before
    · exact ProducerSeat.step_stocked (stores seat (List.mem_of_getElem? here)) x.memory step
  · rcases producers_perform founded (fun k step same => own ⟨k, step, same⟩) with
      same | ⟨p, limit, added, empty, -, -⟩
    · rw [same] at member
      exact stores after member
    · rw [added] at member
      rcases List.mem_append.mp member with before | new
      · exact stores after before
      · rw [List.mem_singleton.mp new]
        exact .of_none empty

theorem Stores.run (stores : x.Stores) (founded : x.Founded) (moves : List Move) :
    (x.run moves).Stores := by
  have both := run_induction (motive := fun y => y.Founded ∧ y.Stores) ⟨founded, stores⟩
    (fun y move before => ⟨before.1.perform move, before.2.perform before.1 move⟩) moves
  exact both.2

/-- No outlet of a producer fails to finish at a queue that is an exchange. -/
theorem Staged.finishes {e k : Nat} {y : Exchange} (staged : x.Staged e y) {seat : ProducerSeat}
    (current : x.producerAt e k = some seat) (standing : seat.stand = .bound) {i : Nat}
    (inside : i < (x.memory.queue seat.producer.handle).consumers) :
    ∃ n, (seat.producer.outlet (x.memory.queue seat.producer.handle) i).finish.2 = .ok n := by
  have own := staged.producer k seat current
  have producer : seat.producer = y.producer := congrArg ProducerSeat.producer own
  have stand : seat.stand = y.stand := congrArg ProducerSeat.stand own
  have queue : x.memory.queue seat.producer.handle = y.queue := by
    rw [producer, Exchange.queue, staged.memory]
  rw [queue] at inside ⊢
  rw [producer]
  by_cases active : (y.slot i).status = .active
  · obtain ⟨n, sound⟩ := staged.sound
    obtain ⟨skip, records, awaits, -, -⟩ := sound.ports i inside (staged.calm i inside).matched
    rw [← stand, standing] at awaits
    exact (Outlet.finish_active (o := y.producer.outlet y.queue i) awaits active).1
  · exact ⟨0, by rw [Outlet.finish_closed (o := y.producer.outlet y.queue i) active]⟩

theorem perform_finish {k : Nat} {seat : ProducerSeat} (bound : x.producers[k]? = some seat)
    (standing : seat.stand = .bound) :
    x.perform (.produce k (.call .finish)) =
      { x with
          memory := x.memory.setQueue seat.producer.handle
            (seat.producer.finish (x.memory.queue seat.producer.handle)).2.1
          producers := x.producers.set k { seat with
            producer := (seat.producer.finish (x.memory.queue seat.producer.handle)).1 } } := by
  simp only [perform, produce, bound, ProducerSeat.step, standing]
  rfl

/-- In every state that a regular run leads to, a producer that is bound to a queue that is still
there finishes without failing. It answers for how many slots something is still held back, and
comes out of every outlet as `Announces` says. If it answers that nothing is, no slot is active and
nothing is held back, and finishing once more answers the same and changes nothing. -/
theorem finish_not_early (c : Config) (creator : ProcessId) (moves : List Move)
    (regular : Along Regular (start c creator) moves) (k : Nat) (seat : ProducerSeat)
    (bound : ((start c creator).run moves).producers[k]? = some seat)
    (standing : seat.stand = .bound)
    (holding : ((start c creator).run moves).AtLiveQueue (.produce k (.call .finish))) :
    let x := (start c creator).run moves
    let y := x.perform (.produce k (.call .finish))
    let before := x.memory.queue seat.producer.handle
    let after := y.memory.queue seat.producer.handle
    ∃ p pending, seat.producer.finish before = (p, after, .ok pending) ∧
      y.producers[k]? = some { seat with producer := p } ∧
      pending = (List.range before.consumers).countP (fun i => decide (0 < p.pending i)) ∧
      (∀ i, i < before.consumers →
        (seat.producer.outlet before i).Announces (p.outlet after i)) ∧
      (pending = 0 → (∀ i, p.held i = none) ∧
        (∀ i, i < after.consumers → (after.lane i).slot.status ≠ .active) ∧
        p.finish after = (p, after, .ok 0)) := by
  intro x y before after
  obtain ⟨live, current⟩ := holding seat bound
  have ordered : x.Ordered := (Ordered.start c creator).run moves regular
  have member : seat ∈ x.producers := List.mem_of_getElem? bound
  have stocked : seat.producer.IsStocked :=
    Stores.run (fun _ member => absurd member List.not_mem_nil) (.start c creator) moves seat member
  have serves : x.memory.Serves seat.producer.handle :=
    ordered.founded.built.serves (ordered.founded.sound.producers _ (List.mem_map_of_mem member))
  have tended : x.Tended :=
    Tended.run (fun _ member => absurd member List.not_mem_nil) (.start c creator) moves
  have sized : seat.producer.Sized before := ((tended seat member).2 current.symm).sized
  obtain ⟨w, staged⟩ := ordered.staged _ (live_used c creator moves live)
  have passed (i : Nat) (inside : i < before.consumers) :
      ∃ n, (seat.producer.outlet before i).finish.2 = .ok n :=
    staged.finishes (producerAt_eq_some.mpr ⟨bound, rfl, current⟩) standing inside
  have counted := (Producer.finish_passed serves.wired sized stocked passed).1
  have announces (i : Nat) (inside : i < before.consumers) :=
    Producer.finish_announces stocked passed serves.wired sized inside
  have through := Producer.finish_nothing stocked passed serves.wired sized
  have moved := perform_finish bound standing
  have same : after = (seat.producer.finish before).2.1 := by
    change (x.perform _).memory.queue seat.producer.handle = _
    rw [moved]
    exact serves.has.queue_setQueue _
  rw [counted, ← same] at through
  rw [← same] at announces
  refine ⟨(seat.producer.finish before).1, _, ?_, ?_, rfl, announces, fun none => ?_⟩
  · rw [Producer.finish_eq counted, ← same]
  · change (x.perform _).producers[k]? = _
    rw [moved]
    exact List.getElem?_set_self (List.getElem?_eq_some_iff.mp bound).1
  · exact through (congrArg Except.ok none)

/-- The reader has asked for the second chunk, and with it the record is through. -/
theorem finish_not_early_insideRecord :
    let x := (start narrow 1).run insideRecord
    let y := x.perform (.produce 0 (.call .finish))
    Along Regular (start narrow 1) insideRecord ∧
      x.AtLiveQueue (.produce 0 (.call .finish)) ∧
      ∃ seat p, x.producers[0]? = some seat ∧ seat.stand = .bound ∧ seat.producer.pending 0 = 1 ∧
        seat.producer.finish (x.memory.queue seat.producer.handle) =
          (p, y.memory.queue seat.producer.handle, .ok 0) ∧
        ((y.memory.queue seat.producer.handle).lane 0).slot.status = .eof ∧
        p.finish (y.memory.queue seat.producer.handle) =
          (p, y.memory.queue seat.producer.handle, .ok 0) := by
  intro x y
  have regular : Along Regular (start narrow 1) insideRecord := by decide +kernel
  have holding : ((start narrow 1).run insideRecord).AtLiveQueue (.produce 0 (.call .finish)) := by
    decide +kernel
  have stands : (((start narrow 1).run insideRecord).producers[0]?).map (fun seat =>
      let q := ((start narrow 1).run insideRecord).memory.queue seat.producer.handle
      (seat.stand, seat.producer.pending 0, q.consumers, (q.lane 0).slot.status,
        decide ((seat.producer.finish q).2.2 = .ok 0))) = some (.bound, 1, 1, .active, true) := by
    decide +kernel
  obtain ⟨seat, bound, found⟩ := Option.map_eq_some_iff.mp stands
  simp only [Prod.mk.injEq, decide_eq_true_eq] at found
  obtain ⟨standing, held, one, active, done⟩ := found
  obtain ⟨p, pending, finished, -, counted, announces, idle⟩ :=
    finish_not_early narrow 1 insideRecord regular 0 seat bound standing holding
  have none : pending = 0 := by
    rw [finished] at done
    exact Except.ok.inj done
  subst none
  obtain ⟨empty, -, again⟩ := idle rfl
  have nothing : p.pending 0 = 0 := by
    change (p.held 0).elim 0 (·.length) = 0
    rw [empty]
    rfl
  have inside : 0 < (x.memory.queue seat.producer.handle).consumers := one ▸ Nat.one_pos
  exact ⟨regular, holding, seat, p, bound, standing, held, finished,
    ((announces 0 inside).ended.mpr ⟨active, nothing⟩).2, again⟩

/-- Along the runs that `allowed` admits, no bound producer fails to finish at a queue that is still
there. -/
def FinishesAlong (allowed : Commons → Move → Prop) : Prop :=
  ∀ (c : Config) (creator : ProcessId) (moves : List Move), Along allowed (start c creator) moves →
    let x := (start c creator).run moves
    ∀ k seat, x.producers[k]? = some seat → seat.stand = .bound →
      x.AtLiveQueue (.produce k (.call .finish)) →
        ∃ p q pending,
          seat.producer.finish (x.memory.queue seat.producer.handle) = (p, q, .ok pending)

theorem not_finishesAlong {allowed : Commons → Move → Prop} (moves : List Move) (cause : Error)
    (along : Along allowed (start narrow 1) moves)
    (holding : ((start narrow 1).run moves).AtLiveQueue (.produce 1 (.call .finish)))
    (stands : (((start narrow 1).run moves).producers[1]?).map (fun seat =>
      (seat.stand, (seat.producer.finish
        (((start narrow 1).run moves).memory.queue seat.producer.handle)).2.2)) =
      some (.bound, .error cause)) : ¬ FinishesAlong allowed := by
  intro finishes
  obtain ⟨seat, bound, found⟩ := Option.map_eq_some_iff.mp stands
  obtain ⟨standing, failed⟩ := Prod.mk.inj found
  obtain ⟨p, q, pending, passed⟩ := finishes narrow 1 moves along 1 seat bound standing holding
  rw [passed] at failed
  cases failed

/-- Two producers write for one slot, the first of them named zero. The reader is inside the record
of the first one when the second one begins its own. -/
def besideNameless (reader : Session) : List Move :=
  [.acquire undisturbed ⟨0, 0⟩ "rows" 1,
    .bind undisturbed ⟨0, 0⟩ "rows" [1] [0, 1] 64, .bind undisturbed ⟨102, 2⟩ "rows" [1] [0, 1] 64,
    .bind undisturbed reader "rows" [1] [0, 1] 64, .consume 0 (.read true),
    .produce 0 (.call (.write 0 [0, 0, 0, 0])), .produce 0 (.call .finish), .consume 0 .resume,
    .produce 0 (.call .finish), .consume 0 .resume, .produce 1 (.call (.write 0 [0, 0]))]

/-- A reader outlives its queue inside a long record, and goes on with the first chunk of a record
in the queue that was laid out after it. -/
def besideOutlived : List Move :=
  [.acquire undisturbed ⟨100, 0⟩ "old" 1, .acquire undisturbed ⟨101, 1⟩ "old" 1,
    .bind undisturbed ⟨100, 0⟩ "old" [1] [0, 1] 64, .bind undisturbed ⟨101, 1⟩ "old" [1] [0, 1] 64,
    .consume 0 (.read true), .produce 0 (.call (.write 0 [0, 0, 0, 0])), .produce 0 (.call .finish),
    .consume 0 .resume, .produce 0 (.call .finish), .consume 0 .resume,
    .release undisturbed ⟨101, 1⟩ "old", .produce 0 (.unbind true), .produce 0 (.close undisturbed),
    .produce 0 (.close undisturbed), .release undisturbed ⟨100, 0⟩ "old",
    .acquire undisturbed ⟨200, 0⟩ "new" 1, .acquire undisturbed ⟨201, 1⟩ "new" 1,
    .bind undisturbed ⟨200, 0⟩ "new" [1] [0, 1] 64, .produce 1 (.call (.write 0 [0, 0])),
    .produce 1 (.call .finish), .consume 0 .resume]

/-- With sessions named zero, or with roles played at queues that are gone, finishing may fail
though no reader gave up inside a long record. -/
theorem finish_fails_beside_others :
    ¬ FinishesAlong (fun x move => x.AtLiveQueue move ∧ ¬ x.GivesUpInside move) ∧
      ¬ FinishesAlong (fun x move => Named move ∧ ¬ x.GivesUpInside move) := by
  constructor
  · exact not_finishesAlong (besideNameless ⟨101, 1⟩) (.longRecordMismatch 2 2)
      (by decide +kernel) (by decide +kernel) (by decide +kernel)
  · exact not_finishesAlong besideOutlived (.longRecordMismatch 2 3)
      (by decide +kernel) (by decide +kernel) (by decide +kernel)

end Commons

end RecordExchange
