import RecordExchange.Proofs.Queue.Unbinding
import RecordExchange.Proofs.Scene.Hearing

set_option autoImplicit false

/-!
What a scene keeps up while the producer works.

Two facts stand in the way of a producer and a reader that both sleep. The reader's side is the same
for all scenes: it has missed nothing. The producer's side depends on where the producer stands:
while it goes through a pass, or sleeps behind one, nothing is held back for a reader that sleeps,
unless that reader signalled after the pass came by; and behind a pass that left nothing, nothing is
held back at all.
-/

namespace RecordExchange

namespace ProducerStage

/-- The producer came by at slot `i`, and nothing made it begin again since. -/
def HasVisited : ProducerStage → Nat → Prop
  | .passing _ next _, i => i < next
  | .asleep .drain, _ => True
  | .asleep .flush, _ => True
  | _, _ => False

/-- The producer came by at slot `i`, and no slot up to there holds anything back. -/
def HasFlushed : ProducerStage → Nat → Prop
  | .passing _ next pending, i => i < next ∧ pending = 0
  | .asleep .sweep, _ => True
  | .roused .sweep _, _ => True
  | .dropping .sweep, _ => True
  | .sweeping, _ => True
  | .settling, _ => True
  | _, _ => False

/-- The producer gives the queue up, and came by at slot `i`. -/
def HasFailed : ProducerStage → Nat → Prop
  | .resetting next, i => i < next
  | _, _ => False

/-- Nothing is known of the slots at such a stage. -/
structure IsBlank (stage : ProducerStage) : Prop where
  visited : ∀ i, ¬ stage.HasVisited i
  flushed : ∀ i, ¬ stage.HasFlushed i
  failed : ∀ i, ¬ stage.HasFailed i

theorem isBlank_free : IsBlank .free := ⟨fun _ => id, fun _ => id, fun _ => id⟩

theorem isBlank_failing : IsBlank .failing := ⟨fun _ => id, fun _ => id, fun _ => id⟩

theorem isBlank_asleep : IsBlank (.asleep .own) := ⟨fun _ => id, fun _ => id, fun _ => id⟩

theorem isBlank_passing (pass : Pass) : IsBlank (.passing pass 0 0) :=
  ⟨fun i => Nat.not_lt_zero i, fun i flushed => Nat.not_lt_zero i flushed.1, fun _ => id⟩

theorem isBlank_resetting : IsBlank (.resetting 0) :=
  ⟨fun _ => id, fun _ => id, fun i => Nat.not_lt_zero i⟩

end ProducerStage

theorem Pass.failed_isBlank (pass : Pass) : pass.failed.IsBlank := by
  cases pass with
  | finish => exact ProducerStage.isBlank_free
  | drain => exact ProducerStage.isBlank_free
  | flush => exact ProducerStage.isBlank_failing

/-- Behind the last outlet a pass goes on only where it left nothing. -/
theorem Pass.ended_cases (pass : Pass) (pending : Nat) :
    (pass.ended pending).IsBlank ∨ pass.ended pending = .asleep .drain ∨
      pass.ended pending = .asleep .flush ∨ pass.ended pending = .sweeping ∧ pending = 0 := by
  cases pass with
  | finish => exact .inl ProducerStage.isBlank_free
  | drain =>
    cases pending with
    | zero => exact .inl ProducerStage.isBlank_free
    | succ pending => exact .inr (.inl rfl)
  | flush =>
    cases pending with
    | zero => exact .inr (.inr (.inr ⟨rfl, rfl⟩))
    | succ pending => exact .inr (.inr (.inl rfl))

theorem Wait.failed_isBlank (wait : Wait) : wait.failed.IsBlank := by
  cases wait with
  | own => exact ProducerStage.isBlank_free
  | drain => exact ProducerStage.isBlank_free
  | flush => exact ProducerStage.isBlank_failing
  | sweep => exact ProducerStage.isBlank_failing

theorem ProducerStage.failed_isBlank {stage : ProducerStage} (stays : stage ≠ .gone) :
    stage.failed.IsBlank := by
  cases stage with
  | free => exact isBlank_free
  | passing pass next pending => exact pass.failed_isBlank
  | resetting next => exact isBlank_free
  | asleep wait => exact wait.failed_isBlank
  | roused wait timely => exact wait.failed_isBlank
  | gone => exact absurd rfl stays
  | _ => exact isBlank_failing

namespace Scene

/-- The reader of slot `i`, which met no mismatch, sleeps and was not signalled. -/
structure Sleeps (x : Scene) (i : Nat) : Prop where
  present : x.seats i = .present
  asleep : (x.ports i).reading ≠ none
  unheard : (x.queue.lane i).latch.isSet = false
  matched : (x.ports i).mismatched = false

/-- A slot, its reader and what is held back for it belong together. -/
structure Tuned (x : Scene) (i : Nat) : Prop where
  indexed : (x.ports i).consumer.index = i
  inside : x.seats i ≠ .absent → i < x.queue.consumers
  seated : x.seats i = .absent → (x.ports i).reading = none
  unfinished : ∀ point, (x.ports i).reading = some point → point.Unfinished
  hears : i < x.queue.consumers → (x.ports i).mismatched = false →
    (x.ports i).Hears (x.seats i) (x.queue.lane i) (x.held i)

/-- What a scene keeps up until the producer lets go of the queue. -/
structure Ready (x : Scene) : Prop where
  wired : x.queue.Wired
  sized : x.producer.Sized x.queue
  tuned : ∀ i, x.Tuned i
  answered : ∀ i, i < x.queue.consumers → x.stage.HasVisited i → x.held i ≠ none → x.Sleeps i →
    x.queue.sync.producer.isSet = true
  flushed : ∀ i, i < x.queue.consumers → x.stage.HasFlushed i → x.held i = none
  failed : ∀ i, i < x.queue.consumers → x.stage.HasFailed i → (x.slot i).status ≠ .active

variable {x y : Scene} {i : Nat}

/-- A slot that nothing happened to is as it was. -/
theorem Tuned.congr (tuned : x.Tuned i) (consumers : y.queue.consumers = x.queue.consumers)
    (lane : y.queue.lane i = x.queue.lane i) (held : y.held i = x.held i)
    (port : y.ports i = x.ports i) (seat : y.seats i = x.seats i) : y.Tuned i := by
  refine ⟨?_, ?_, ?_, ?_, ?_⟩
  · rw [port]
    exact tuned.indexed
  · rw [seat, consumers]
    exact tuned.inside
  · rw [seat, port]
    exact tuned.seated
  · rw [port]
    exact tuned.unfinished
  · rw [consumers, port, seat, lane, held]
    exact tuned.hears

theorem Sleeps.congr (sleeps : y.Sleeps i) (lane : y.queue.lane i = x.queue.lane i)
    (port : y.ports i = x.ports i) (seat : y.seats i = x.seats i) : x.Sleeps i :=
  ⟨seat ▸ sleeps.present, port ▸ sleeps.asleep, lane ▸ sleeps.unheard, port ▸ sleeps.matched⟩

theorem Tuned.served (tuned : x.Tuned i) (consumers : y.queue.consumers = x.queue.consumers)
    (seats : y.seats = x.seats) (added : List Record)
    (port : y.ports i = { x.ports i with accepted := (x.ports i).accepted ++ added })
    (serving : i < x.queue.consumers → (x.ports i).mismatched = false →
      Serving (x.queue.lane i) (y.queue.lane i) (x.held i) (y.held i) added) : y.Tuned i := by
  refine ⟨?_, ?_, ?_, ?_, ?_⟩
  · rw [port]
    exact tuned.indexed
  · rw [seats, consumers]
    exact tuned.inside
  · rw [seats, port]
    exact tuned.seated
  · rw [port]
    exact tuned.unfinished
  · rw [consumers, port, seats]
    intro inside matched
    exact (tuned.hears inside matched).served (serving inside matched)

/-- At a stage at which nothing is known of the slots, it is enough that they are tuned. -/
theorem Ready.blank (blank : x.stage.IsBlank) (wired : x.queue.Wired)
    (sized : x.producer.Sized x.queue) (tuned : ∀ i, x.Tuned i) : x.Ready :=
  ⟨wired, sized, tuned, fun i _ visited => absurd visited (blank.visited i),
    fun i _ flushed => absurd flushed (blank.flushed i),
    fun i _ failed => absurd failed (blank.failed i)⟩

theorem Tuned.withStage (tuned : x.Tuned i) (stage : ProducerStage) : (x.withStage stage).Tuned i :=
  tuned.congr rfl rfl rfl rfl rfl

theorem Ready.withBlank (ready : x.Ready) {stage : ProducerStage} (blank : stage.IsBlank) :
    (x.withStage stage).Ready :=
  .blank blank ready.wired ready.sized fun i => (ready.tuned i).withStage stage

/-- A producer that goes on to another stage knows no more of the slots. -/
theorem Ready.withStage (ready : x.Ready) {stage : ProducerStage}
    (visited : ∀ i, i < x.queue.consumers → stage.HasVisited i → x.stage.HasVisited i)
    (flushed : ∀ i, i < x.queue.consumers → stage.HasFlushed i → x.stage.HasFlushed i)
    (failed : ∀ i, ¬ stage.HasFailed i) : (x.withStage stage).Ready :=
  ⟨ready.wired, ready.sized, fun i => (ready.tuned i).withStage stage,
    fun i inside visited' held sleeps => ready.answered i inside (visited i inside visited') held
      ⟨sleeps.present, sleeps.asleep, sleeps.unheard, sleeps.matched⟩,
    fun i inside flushed' => ready.flushed i inside (flushed i inside flushed'),
    fun i _ failed' => absurd failed' (failed i)⟩

theorem mapLanes_wired {q : Queue} (wired : q.Wired) (f : Lane → Lane) : (q.mapLanes f).Wired := by
  have latches : (q.mapLanes f).sync.consumers.size = q.sync.consumers.size :=
    congrArg Outline.latches (Queue.mapLanes_outline q f)
  rw [Queue.Wired, Queue.mapLanes_consumers, latches]
  exact wired

/-- Work on all lanes that holds nothing back and gives nothing up, behind a pass that left nothing,
or at a stage at which nothing is known. -/
theorem Ready.sweepLanes (ready : x.Ready) {f : Lane → Lane} (g : Latch → Latch)
    (stage : ProducerStage) (serving : ∀ l held, Serving l (f l) held held [])
    (visited : ∀ i, ¬ stage.HasVisited i)
    (flushed : ∀ i, stage.HasFlushed i → x.stage.HasFlushed i)
    (failed : ∀ i, ¬ stage.HasFailed i) :
    ({ x with queue := (x.queue.mapLanes f).onProducerLatch g, stage } : Scene).Ready := by
  have consumers : ((x.queue.mapLanes f).onProducerLatch g).consumers = x.queue.consumers :=
    Queue.mapLanes_consumers ..
  refine ⟨mapLanes_wired ready.wired f, ?_, ?_, fun i _ visited' => absurd visited' (visited i), ?_,
    fun i _ failed' => absurd failed' (failed i)⟩
  · rw [Producer.Sized, consumers]
    exact ready.sized
  · intro i
    refine (ready.tuned i).served consumers rfl [] ?_ fun inside _ => ?_
    · rw [List.append_nil]
    · change Serving _ ((x.queue.mapLanes f).lane i) _ _ _
      rw [ready.wired.lane_mapLanes inside]
      exact serving ..
  · intro i inside flushed'
    rw [consumers] at inside
    exact ready.flushed i inside (flushed i flushed')

/-- The outlet of slot `i` was put back, and the reader of the slot got `added`. -/
structure Puts (x y : Scene) (i : Nat) (o : Outlet) (added : List Record) : Prop where
  producer : y.producer = (x.producer.setOutlet x.queue i o).1
  queue : y.queue = (x.producer.setOutlet x.queue i o).2
  seats : y.seats = x.seats
  own : y.ports i = { x.ports i with accepted := (x.ports i).accepted ++ added }
  others : ∀ j, j ≠ i → y.ports j = x.ports j

namespace Puts

variable {o : Outlet} {added : List Record} (puts : x.Puts y i o added)
include puts

theorem consumers : y.queue.consumers = x.queue.consumers := by
  rw [puts.queue]
  exact Queue.setLane_consumers ..

theorem latch : y.queue.sync.producer = x.queue.sync.producer := by
  rw [puts.queue]
  rfl

theorem lane_other {j : Nat} (other : j ≠ i) : y.queue.lane j = x.queue.lane j := by
  rw [puts.queue]
  exact x.queue.lane_setLane_other (Ne.symm other) o.lane

theorem held_other {j : Nat} (other : j ≠ i) : y.held j = x.held j := by
  rw [held, puts.producer, Producer.setOutlet_held_other _ _ (Ne.symm other)]
  rfl

section Own

variable (ready : x.Ready) (inside : i < x.queue.consumers)
include ready inside

theorem lane_self : y.queue.lane i = o.lane := by
  rw [puts.queue]
  exact ready.wired.lane_setLane inside o.lane

theorem held_self : y.held i = o.held := by
  rw [held, puts.producer]
  exact Producer.setOutlet_held_self ready.sized inside o

end Own

theorem wired (ready : x.Ready) : y.queue.Wired := by
  rw [puts.queue]
  exact ready.wired.setLane i o.lane

theorem sized (ready : x.Ready) : y.producer.Sized y.queue := by
  rw [puts.producer, puts.queue]
  exact Producer.setOutlet_sized ready.sized i o

theorem tuned (ready : x.Ready) (inside : i < x.queue.consumers)
    (serving : (x.ports i).mismatched = false →
      Serving (x.queue.lane i) o.lane (x.held i) o.held added) (j : Nat) : y.Tuned j := by
  by_cases here : j = i
  · subst here
    refine (ready.tuned j).served puts.consumers puts.seats added puts.own fun _ matched => ?_
    rw [puts.lane_self ready inside, puts.held_self ready inside]
    exact serving matched
  · exact (ready.tuned j).congr puts.consumers (puts.lane_other here) (puts.held_other here)
      (puts.others j here) (congrFun puts.seats j)

end Puts

section Passes

variable {pass : Pass} {next pending : Nat}

theorem pass_puts (pass : Pass) (pending : Nat) (inside : next < x.queue.consumers) :
    x.Puts (x.pass pass next pending) next (x.producer.outlet x.queue next).finish.1 [] := by
  simp only [Scene.pass, inside, ↓reduceIte]
  refine ⟨rfl, rfl, rfl, ?_, fun _ _ => rfl⟩
  rw [List.append_nil]

theorem pass_stage (pass : Pass) (pending : Nat) (inside : next < x.queue.consumers) {more : Nat}
    (done : (x.producer.outlet x.queue next).finish.2 = .ok more) :
    (x.pass pass next pending).stage = .passing pass (next + 1) (pending + more) := by
  simp only [Scene.pass, inside, ↓reduceIte]
  split
  · rename_i other found
    rw [Except.ok.inj (found.symm.trans done)]
  · rename_i found
    exact nomatch found.symm.trans done

theorem pass_failed (inside : next < x.queue.consumers) {cause : Error}
    (fails : (x.producer.outlet x.queue next).finish.2 = .error cause) :
    (x.pass pass next pending).stage = pass.failed := by
  simp only [Scene.pass, inside, ↓reduceIte]
  split
  · rename_i found
    exact nomatch found.symm.trans fails
  · rfl

theorem pass_ends (past : ¬ next < x.queue.consumers) :
    x.pass pass next pending = x.withStage (pass.ended pending) := by
  simp only [Scene.pass, past, ↓reduceIte]

theorem Ready.pass_tuned (ready : x.Ready) (inside : next < x.queue.consumers) (i : Nat) :
    (x.pass pass next pending).Tuned i := by
  refine (pass_puts pass pending inside).tuned ready inside (fun matched => ?_) i
  obtain ⟨skip, queue, awaits⟩ := ((ready.tuned next).hears inside matched).awaits matched
  exact Serving.finish (o := x.producer.outlet x.queue next) awaits

/-- Behind the outlet that was finished, nothing is held back for a reader that sleeps. -/
theorem Ready.pass_answered (ready : x.Ready) (inside : next < x.queue.consumers) {more : Nat}
    (done : (x.producer.outlet x.queue next).finish.2 = .ok more)
    (held : (x.pass pass next pending).held next ≠ none) :
    ¬ (x.pass pass next pending).Sleeps next := by
  have puts := pass_puts pass pending inside
  intro sleeps
  have port : x.ports next = (x.pass pass next pending).ports next := by
    rw [puts.own, List.append_nil]
  have matched : (x.ports next).mismatched = false := by
    rw [port]
    exact sleeps.matched
  have unheard := sleeps.unheard
  rw [puts.lane_self ready inside] at unheard
  rw [puts.held_self ready inside] at held
  have signalled := ((ready.tuned next).hears inside matched).passed
    (o := x.producer.outlet x.queue next) matched done held (by rw [port]; exact sleeps.asleep)
  exact nomatch unheard.symm.trans signalled

theorem Ready.passOn (ready : x.Ready) (stands : x.stage = .passing pass next pending)
    (inside : next < x.queue.consumers) : (x.pass pass next pending).Ready := by
  have puts := pass_puts pass pending inside
  cases done : (x.producer.outlet x.queue next).finish.2 with
  | error cause =>
    refine .blank ?_ (puts.wired ready) (puts.sized ready) (ready.pass_tuned inside)
    rw [pass_failed inside done]
    exact pass.failed_isBlank
  | ok more =>
    have stage := pass_stage pass pending inside done
    refine ⟨puts.wired ready, puts.sized ready, ready.pass_tuned inside, ?_, ?_, ?_⟩
    · intro i there visited held sleeps
      rw [stage] at visited
      rw [puts.consumers] at there
      rw [puts.latch]
      by_cases here : i = next
      · subst here
        exact absurd sleeps (ready.pass_answered inside done held)
      · rw [puts.held_other here] at held
        refine ready.answered i there ?_ held
          (sleeps.congr (puts.lane_other here) (puts.others i here) (congrFun puts.seats i))
        rw [stands]
        change i < next
        have visited : i < next + 1 := visited
        omega
    · intro i there flushed
      rw [stage] at flushed
      obtain ⟨visited, none⟩ := flushed
      rw [puts.consumers] at there
      by_cases here : i = next
      · subst here
        rw [puts.held_self ready inside]
        exact Outlet.finish_held _ (done.trans (congrArg Except.ok (by omega)))
      · rw [puts.held_other here]
        refine ready.flushed i there ?_
        rw [stands]
        exact ⟨by omega, by omega⟩
    · intro i _ failed
      rw [stage] at failed
      exact absurd failed id

theorem Ready.passing (ready : x.Ready) (stands : x.stage = .passing pass next pending) :
    (x.pass pass next pending).Ready := by
  by_cases inside : next < x.queue.consumers
  · exact ready.passOn stands inside
  · have visited (i : Nat) (there : i < x.queue.consumers) : x.stage.HasVisited i := by
      rw [stands]
      change i < next
      omega
    rw [pass_ends inside]
    rcases pass.ended_cases pending with blank | asleep | asleep | ⟨sweeping, none⟩
    · exact ready.withBlank blank
    · rw [asleep]
      exact ready.withStage (fun i there _ => visited i there) (fun _ _ => False.elim) fun _ => id
    · rw [asleep]
      exact ready.withStage (fun i there _ => visited i there) (fun _ _ => False.elim) fun _ => id
    · rw [sweeping]
      refine ready.withStage (fun _ _ => False.elim) (fun i there _ => ?_) fun _ => id
      rw [stands]
      exact ⟨by omega, none⟩

end Passes

end Scene

end RecordExchange
