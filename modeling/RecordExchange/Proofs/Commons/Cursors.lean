import RecordExchange.Proofs.Commons.Registry
import RecordExchange.Proofs.Commons.Stages
import RecordExchange.Proofs.Ring.Cursors

set_option autoImplicit false

/-!
The counts and the cursors of all buffers over whole runs.

As long as no reader gives up inside a long record, what a slot carries is known, and with it what
its count and its cursors say. This needs that a queue has one producer and a slot one reader, which
a session named zero undoes: its name is that of nobody, so somebody else takes its place beside it.
-/

namespace RecordExchange

/-- What a reader is still to get leaves the count and the cursors of the buffer in order. -/
theorem Exchange.Sound.agrees {y : Exchange} {n i : Nat} (sound : y.Sound n)
    (inside : i < y.queue.consumers) (matched : (y.ports i).mismatched = false) :
    ∃ rows, (y.slot i).ring.Agrees rows := by
  obtain ⟨skip, queue, ⟨t, rest, feeds, -, -⟩, -, -⟩ := sound.ports i inside matched
  exact feeds.carries.agrees

namespace Commons

variable {x : Commons}

/-- Sessions that take up roles have names, roles are played at queues that are still there, and no
reader gives up inside a long record. -/
def Regular (x : Commons) (move : Move) : Prop :=
  Named move ∧ x.AtLiveQueue move ∧ ¬ x.GivesUpInside move

instance (x : Commons) (move : Move) : Decidable (x.Regular move) :=
  inferInstanceAs (Decidable (_ ∧ _ ∧ _))

/-- What a regular run is made of. -/
structure Ordered (x : Commons) : Prop where
  founded : x.Founded
  manned : x.Manned
  staged : x.IsStaged

theorem Ordered.run (ordered : x.Ordered) (moves : List Move) (regular : Along Regular x moves) :
    (x.run moves).Ordered := by
  induction moves generalizing x with
  | nil => exact ordered
  | cons move rest ih =>
    obtain ⟨⟨named, holding, stays⟩, later⟩ := regular
    exact ih ⟨ordered.founded.perform move, ordered.manned.perform ordered.founded named,
      ordered.staged.perform ordered.founded ordered.manned holding stays⟩ later

theorem Ordered.start (c : Config) (creator : ProcessId) : (start c creator).Ordered :=
  ⟨.start c creator, .start c creator, fun _ used => absurd rfl used⟩

/-- A place that holds a queue was laid out for it. -/
theorem live_used (c : Config) (creator : ProcessId) (moves : List Move) {e : Nat}
    (live : (((start c creator).run moves).memory.register.title e).live = true) :
    ((start c creator).run moves).turn e ≠ 0 := by
  have titled : ((start c creator).run moves).ledger.Titled :=
    titled_run (.start c creator) (fun e taken => absurd taken (start_vacant c creator e)) moves
  obtain ⟨name, earlier, laid, -⟩ := titled e live
  change (((start c creator).run moves).ledger.laidOut e).length ≠ 0
  rw [laid]
  exact Nat.succ_ne_zero _

/-- In every state that a regular run leads to, for every slot of every queue that is there, count
and cursors agree with the rows that are unread in its buffer, and so do the free bytes. -/
theorem cursors_agree (c : Config) (creator : ProcessId) (moves : List Move)
    (regular : Along Regular (start c creator) moves) :
    let x := (start c creator).run moves
    ∀ e, (x.memory.register.title e).live = true →
      ∀ i, i < (x.memory.entries.getD e default).slots.size →
        ∃ rows, (x.memory.slotAt e i).ring.Agrees rows := by
  intro x e live i inside
  have ordered : x.Ordered := (Ordered.start c creator).run moves regular
  obtain ⟨y, staged⟩ := ordered.staged e (live_used c creator moves live)
  obtain ⟨n, sound⟩ := staged.sound
  have within : i < y.queue.consumers := by
    rw [staged.consumers_eq]
    exact inside
  rw [← staged.slot_eq]
  exact sound.agrees within (staged.calm i within).matched

/-- A reader is inside a long record, of which the producer holds the second chunk back. -/
def insideRecord : List Move :=
  [.acquire undisturbed ⟨100, 0⟩ "rows" 1, .acquire undisturbed ⟨101, 1⟩ "rows" 1,
    .bind undisturbed ⟨100, 0⟩ "rows" [1] [0, 1] 64,
    .bind undisturbed ⟨101, 1⟩ "rows" [1] [0, 1] 64,
    .produce 0 (.call (.write 0 [7, 8])), .produce 0 (.call .finish), .consume 0 (.read true)]

theorem cursors_agree_insideRecord :
    let x := (start narrow 1).run insideRecord
    Along Regular (start narrow 1) insideRecord ∧ (x.memory.register.title 0).live = true ∧
      0 < (x.memory.entries.getD 0 default).slots.size ∧
      (x.memory.slotAt 0 0).ring.count = .longRecord ∧
      ∃ rows, (x.memory.slotAt 0 0).ring.Agrees rows := by
  have regular : Along Regular (start narrow 1) insideRecord := by decide +kernel
  have live : (((start narrow 1).run insideRecord).memory.register.title 0).live = true := by
    decide +kernel
  have inside :
      0 < (((start narrow 1).run insideRecord).memory.entries.getD 0 default).slots.size := by
    decide +kernel
  exact ⟨regular, live, inside, by decide +kernel,
    cursors_agree narrow 1 insideRecord regular 0 live 0 inside⟩

def lessNarrow : Config := { narrow with queueSize := 198 }

/-- Two producers write for one slot, the first of them named zero. The reader is inside a record of
the first one when the other writes an empty record: it takes the length of that for the length of
what is missing. -/
def nameless : List Move :=
  [.acquire undisturbed ⟨0, 0⟩ "rows" 1,
    .bind undisturbed ⟨0, 0⟩ "rows" [1] [0, 1] 64, .bind undisturbed ⟨102, 2⟩ "rows" [1] [0, 1] 64,
    .bind undisturbed ⟨101, 1⟩ "rows" [1] [0, 1] 64, .consume 0 (.read true),
    .produce 0 (.call (.write 0 [0, 0, 0])), .produce 0 (.call .finish), .consume 0 .resume,
    .produce 1 (.call (.write 0 [])), .consume 0 .resume]

/-- With sessions named zero, a buffer may have no free bytes though everything in it was read. -/
theorem cursors_apart_nameless :
    ¬ ∀ (c : Config) (creator : ProcessId) (moves : List Move),
      Along (fun x move => x.AtLiveQueue move ∧ ¬ x.GivesUpInside move) (start c creator) moves →
        let x := (start c creator).run moves
        ∀ e, (x.memory.register.title e).live = true →
          ∀ i, i < (x.memory.entries.getD e default).slots.size →
            ∃ rows, (x.memory.slotAt e i).ring.Agrees rows := by
  intro always
  obtain ⟨rows, agrees⟩ := always lessNarrow 1 nameless (by decide +kernel) 0 (by decide +kernel) 0
    (by decide +kernel)
  have stands : let r := (((start lessNarrow 1).run nameless).memory.slotAt 0 0).ring
      r.count = .rows 1 ∧ r.readLength.1 = 0 ∧ r.free = 0 ∧ r.capacity = 6 := by decide +kernel
  obtain ⟨one, empty, full, capacity⟩ := stands
  -- one row, and an empty one: it would leave two bytes
  have room := agrees.single one
  rw [empty, full, capacity] at room
  cases room

end Commons

end RecordExchange
