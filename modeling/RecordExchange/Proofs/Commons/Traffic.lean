import RecordExchange.Proofs.Commons.Deserted
import RecordExchange.Proofs.Commons.Finishing

set_option autoImplicit false

/-!
The counters of a slot over whole runs.

A bound producer and the counters of an active slot agree on where every record is: what was written
was read, or is held back, or lies in the buffer. One long record that was left halfway takes this
from its slot, and from no other. A session named zero takes it from every slot of its queue, for
two producers count into one place and hold back each for itself.
-/

namespace RecordExchange.Commons

variable {x : Commons} {e i turn : Nat}

/-- At the queue that place `e` was laid out for as the `turn`th, no reader of slot `i` gives up
inside a long record. -/
def SparesAt (e i turn : Nat) (x : Commons) (move : Move) : Prop :=
  x.turn e = turn → ¬ x.GivesUpInsideAt e i move

instance (e i turn : Nat) (x : Commons) (move : Move) : Decidable (SparesAt e i turn x move) :=
  inferInstanceAs (Decidable (_ → ¬ _))

/-- A move after which the queue is there at all: it was there before, or is just laid out. -/
theorem SparesAt.not_givesUp {move : Move} (spares : SparesAt e i turn x move)
    (there : (x.perform move).turn e = turn) : ¬ x.GivesUpInsideAt e i move := by
  intro given
  have same : (x.perform move).turn e = x.turn e := by
    apply perform_turn
    rintro live session name consumers rfl
    exact given
  exact spares (same.symm.trans there) given

/-- The parties at a queue are an exchange, in which that slot is in order whose reader gave up
inside no long record. -/
theorem enacts_run (founded : x.Founded) (manned : x.Manned)
    (enacts : x.turn e = turn → ∃ y, x.Enacts e (· = i) y) (moves : List Move)
    (proper : Along Proper x moves) (spared : Along (SparesAt e i turn) x moves) :
    (x.run moves).turn e = turn → ∃ y, (x.run moves).Enacts e (· = i) y := by
  induction moves generalizing x with
  | nil => exact enacts
  | cons move rest ih =>
    obtain ⟨⟨named, holding⟩, others⟩ := proper
    obtain ⟨spares, later⟩ := spared
    refine ih (founded.perform move) (manned.perform founded named) (fun there => ?_) others later
    apply exists_enacts_perform founded manned holding
    · rintro _ rfl
      exact spares.not_givesUp there
    · exact fun same => enacts (same.symm.trans there)

/-- In every state that a proper run leads to, the counters of an active slot account for every
record, as its producer sees it that is bound to a queue that is still there, if no read was given
up inside a long record of that slot: the records written are those read, those held back and those
in the buffer, of which a long one that is halfway through the buffer is held back as well; and what
went to the overflow came back from it or is held back. -/
theorem traffic_accounted (c : Config) (creator : ProcessId) (moves : List Move)
    (proper : Along Proper (start c creator) moves) (k : Nat) (seat : ProducerSeat)
    (bound : ((start c creator).run moves).producers[k]? = some seat)
    (standing : seat.stand = .bound)
    (live : (((start c creator).run moves).memory.register.title
      seat.producer.handle.entry).live = true)
    (current : seat.turn = ((start c creator).run moves).turn seat.producer.handle.entry) (i : Nat)
    (spared : Along (SparesAt seat.producer.handle.entry i seat.turn) (start c creator) moves) :
    let q := ((start c creator).run moves).memory.queue seat.producer.handle
    let o := seat.producer.outlet q i
    let t := o.lane.slot.traffic
    i < q.consumers → o.lane.slot.status = .active →
      t.writes + o.halfSent = t.reads + o.pending + o.lane.slot.ring.rows ∧
        t.overflowWrites + t.overflowReturns = t.overflowReads + o.pending := by
  intro q o t inside active
  have used := live_used c creator moves live
  obtain ⟨y, enacts⟩ := enacts_run (.start c creator) (.start c creator)
    (fun unused => absurd (current.symm.trans unused.symm) used) moves proper spared current.symm
  have own := enacts.producer k seat (producerAt_eq_some.mpr ⟨bound, rfl, current⟩)
  have producer : seat.producer = y.producer := congrArg ProducerSeat.producer own
  have queue : q = y.queue := by
    rw [Exchange.queue, enacts.memory, ← producer]
  have stand : y.stand = .bound := (congrArg ProducerSeat.stand own).symm.trans standing
  have same : o = y.producer.outlet y.queue i := by
    rw [← producer, ← queue]
  have accounted : o.Accounted := by
    rw [same] at active ⊢
    exact (enacts.ordered i (queue ▸ inside) rfl).tallied stand active
  exact ⟨accounted.records, accounted.overflow⟩

/-- The reader has one record, and the first chunk of another waits for it. -/
def halfThrough : List Move :=
  [.acquire undisturbed ⟨100, 0⟩ "rows" 1, .acquire undisturbed ⟨101, 1⟩ "rows" 1,
    .bind undisturbed ⟨100, 0⟩ "rows" [1] [0, 1] 64,
    .bind undisturbed ⟨101, 1⟩ "rows" [1] [0, 1] 64,
    .produce 0 (.call (.write 0 [9])), .produce 0 (.call (.write 0 [7, 8])),
    .consume 0 (.read true), .produce 0 (.call .finish)]

theorem traffic_accounted_halfThrough :
    let x := (start narrow 1).run halfThrough
    Along Proper (start narrow 1) halfThrough ∧
      ∃ seat, x.producers[0]? = some seat ∧ seat.stand = .bound ∧
        (x.memory.register.title seat.producer.handle.entry).live = true ∧
        seat.turn = x.turn seat.producer.handle.entry ∧
        Along (SparesAt seat.producer.handle.entry 0 seat.turn) (start narrow 1) halfThrough ∧
        let o := seat.producer.outlet (x.memory.queue seat.producer.handle) 0
        let t := o.lane.slot.traffic
        o.lane.slot.status = .active ∧ o.halfSent = 1 ∧ t.writes = 2 ∧
          t.writes + 1 = t.reads + o.pending + o.lane.slot.ring.rows ∧
          t.overflowWrites + t.overflowReturns = t.overflowReads + o.pending := by
  intro x
  have proper : Along Proper (start narrow 1) halfThrough := by decide +kernel
  have stands : (((start narrow 1).run halfThrough).producers[0]?).map (fun seat : ProducerSeat =>
      let x := (start narrow 1).run halfThrough
      let q := x.memory.queue seat.producer.handle
      let o := seat.producer.outlet q 0
      decide (seat.stand = .bound ∧
        (x.memory.register.title seat.producer.handle.entry).live = true ∧
        seat.turn = x.turn seat.producer.handle.entry ∧
        Along (SparesAt seat.producer.handle.entry 0 seat.turn) (start narrow 1) halfThrough ∧
        0 < q.consumers ∧ o.lane.slot.status = .active ∧ o.halfSent = 1 ∧
        o.lane.slot.traffic.writes = 2)) = some true := by
    decide +kernel
  obtain ⟨seat, bound, found⟩ := Option.map_eq_some_iff.mp stands
  obtain ⟨standing, live, current, spared, inside, active, half, written⟩ := of_decide_eq_true found
  obtain ⟨records, overflow⟩ := traffic_accounted narrow 1 halfThrough proper 0 seat bound standing
    live current 0 spared inside active
  rw [half] at records
  exact ⟨proper, seat, bound, standing, live, current, spared, active, half, written, records,
    overflow⟩

/-- Along the runs that `allowed` admits, a bound producer finds every record accounted for, in
every active slot inside whose long records no read was given up. -/
def AccountsAlong (allowed : Commons → Move → Prop) : Prop :=
  ∀ (c : Config) (creator : ProcessId) (moves : List Move), Along allowed (start c creator) moves →
    let x := (start c creator).run moves
    ∀ (k : Nat) (seat : ProducerSeat), x.producers[k]? = some seat → seat.stand = .bound →
      (x.memory.register.title seat.producer.handle.entry).live = true →
      seat.turn = x.turn seat.producer.handle.entry →
        ∀ i, Along (SparesAt seat.producer.handle.entry i seat.turn) (start c creator) moves →
          let o := seat.producer.outlet (x.memory.queue seat.producer.handle) i
          i < (x.memory.queue seat.producer.handle).consumers → o.lane.slot.status = .active →
            o.Accounted

theorem not_accountsAlong {allowed : Commons → Move → Prop} (moves : List Move)
    (along : Along allowed (start narrow 1) moves)
    (stands : (((start narrow 1).run moves).producers[1]?).map (fun seat : ProducerSeat =>
      let x := (start narrow 1).run moves
      let q := x.memory.queue seat.producer.handle
      let o := seat.producer.outlet q 0
      decide (seat.stand = .bound ∧
        (x.memory.register.title seat.producer.handle.entry).live = true ∧
        seat.turn = x.turn seat.producer.handle.entry ∧
        Along (SparesAt seat.producer.handle.entry 0 seat.turn) (start narrow 1) moves ∧
        0 < q.consumers ∧ o.lane.slot.status = .active ∧ ¬ o.Accounted)) = some true) :
    ¬ AccountsAlong allowed := by
  intro accounts
  obtain ⟨seat, bound, found⟩ := Option.map_eq_some_iff.mp stands
  obtain ⟨standing, live, current, spared, inside, active, unaccounted⟩ := of_decide_eq_true found
  exact unaccounted
    (accounts narrow 1 moves along 1 seat bound standing live current 0 spared inside active)

/-- Two producers hold a record each back for one slot, the first of them named zero. -/
def bothCounted : List Move :=
  [.acquire undisturbed ⟨0, 0⟩ "rows" 1,
    .bind undisturbed ⟨0, 0⟩ "rows" [1] [0, 1] 64, .bind undisturbed ⟨102, 2⟩ "rows" [1] [0, 1] 64,
    .produce 0 (.call (.write 0 [0, 0])), .produce 1 (.call (.write 0 [0, 0]))]

/-- With sessions named zero, or with roles played at queues that are gone, the counters of a slot
may miss what its producer holds back, though no reader gave up inside a long record. -/
theorem traffic_unaccounted_beside_others :
    ¬ AccountsAlong AtLiveQueue ∧ ¬ AccountsAlong (fun _ move => Named move) := by
  constructor
  · exact not_accountsAlong bothCounted (by decide +kernel) (by decide +kernel)
  · exact not_accountsAlong (besideOutlived ++ [.produce 1 (.call .finish)]) (by decide +kernel)
      (by decide +kernel)

end RecordExchange.Commons
