import RecordExchange.Proofs.Commons.Actions
import RecordExchange.Proofs.Scene.Ready

set_option autoImplicit false

/-!
Every critical section keeps a scene in order.

The producer's sections work on one lane or on all of them; a reader's section works on its own
lane, and whoever else comes by leaves the lanes of bound readers alone.
-/

namespace RecordExchange

namespace Scene

variable {x y : Scene} {i next : Nat}

def Kept (x : Scene) : Prop := x.stage ≠ .gone → x.Ready

section Producer

theorem failLane_status (l : Lane) : (Producer.failLane l).slot.status ≠ .active := by
  rw [Producer.failLane]
  split
  · rename_i ended
    rw [ended]
    exact SlotStatus.noConfusion
  · rename_i done
    rw [done]
    exact SlotStatus.noConfusion
  · exact SlotStatus.noConfusion

/-- Giving the queue up fails the next slot and forgets nothing yet. -/
theorem resetNext_inside (inside : next < x.queue.consumers) :
    x.resetNext next =
      { x with
        queue := (x.queue.setLane next (Producer.failLane (x.queue.lane next))).wakenIf
          (Producer.isFailing (x.queue.lane next))
        stage := .resetting (next + 1) } := by
  simp only [resetNext, inside, ↓reduceIte]

theorem wakenIf_wired {q : Queue} (wired : q.Wired) (reason : Bool) : (q.wakenIf reason).Wired := by
  cases reason <;> exact wired

theorem Ready.resetNext (ready : x.Ready) (stands : x.stage = .resetting next) :
    (x.resetNext next).Ready := by
  by_cases inside : next < x.queue.consumers
  · rw [resetNext_inside inside]
    have consumers : ((x.queue.setLane next (Producer.failLane (x.queue.lane next))).wakenIf
        (Producer.isFailing (x.queue.lane next))).consumers = x.queue.consumers := by
      rw [Queue.wakenIf_consumers, Queue.setLane_consumers]
    have lane (i : Nat) (there : i < x.queue.consumers) :
        ((x.queue.setLane next (Producer.failLane (x.queue.lane next))).wakenIf
          (Producer.isFailing (x.queue.lane next))).lane i =
            if i = next then Producer.failLane (x.queue.lane i) else x.queue.lane i := by
      rw [Queue.wakenIf_lane]
      split
      · rename_i here
        rw [here, ready.wired.lane_setLane inside]
      · rename_i elsewhere
        rw [Queue.lane_setLane_other _ (Ne.symm elsewhere)]
    refine ⟨wakenIf_wired (ready.wired.setLane ..) _, ?_, fun i => ?_, ?_, ?_, ?_⟩
    · rw [Producer.Sized, consumers]
      exact ready.sized
    · refine (ready.tuned i).served consumers rfl [] ?_ fun there _ => ?_
      · rw [List.append_nil]
      · rw [lane i there]
        split
        · exact Serving.fail ..
        · exact Serving.refl ..
    · exact fun _ _ visited => absurd visited id
    · exact fun _ _ flushed => absurd flushed id
    · intro i there failed
      rw [consumers] at there
      change (((x.queue.setLane next (Producer.failLane (x.queue.lane next))).wakenIf
          (Producer.isFailing (x.queue.lane next))).lane i).slot.status ≠ .active
      rw [lane i there]
      split
      · exact failLane_status _
      · rename_i elsewhere
        refine ready.failed i there ?_
        rw [stands]
        change i < next
        have failed : i < next + 1 := failed
        omega
  · have made : x.resetNext next =
        { x with producer := x.producer.dropOverflow, stage := .free } := by
      simp only [Scene.resetNext, inside, ↓reduceIte]
    rw [made]
    refine .blank ProducerStage.isBlank_free ready.wired (Producer.dropOverflow_sized ready.sized)
      fun i => ?_
    refine (ready.tuned i).served rfl rfl [] ?_ fun there _ => ?_
    · rw [List.append_nil]
    · change Serving _ _ _ (x.producer.dropOverflow.held i) _
      rw [Producer.dropOverflow_held]
      refine Serving.dropped (ready.failed i there ?_)
      rw [stands]
      change i < next
      omega

/-- A producer that woke up forgets its signal, and begins again or goes on behind a sweep. -/
theorem Ready.roused (ready : x.Ready) {wait : Wait} {timely : Bool}
    (stands : x.stage = .roused wait timely) :
    ({ x with queue := wait.clear x.queue, stage := wait.goesOn timely } : Scene).Ready := by
  have cleared {stage : ProducerStage} (blank : stage.IsBlank) :
      ({ x with queue := Producer.afterWait x.queue, stage } : Scene).Ready :=
    .blank blank ready.wired ready.sized fun i => (ready.tuned i).congr rfl rfl rfl rfl rfl
  have swept {stage : ProducerStage} (sweeps : wait = .sweep) (visited : ∀ i, ¬ stage.HasVisited i)
      (failed : ∀ i, ¬ stage.HasFailed i) : ({ x with stage } : Scene).Ready := by
    change (x.withStage stage).Ready
    refine ready.withStage (fun i _ visited' => absurd visited' (visited i)) (fun i _ _ => ?_)
      failed
    rw [stands, sweeps]
    exact trivial
  cases wait with
  | own => exact cleared ProducerStage.isBlank_free
  | drain =>
    cases timely with
    | true => exact cleared (ProducerStage.isBlank_passing .drain)
    | false => exact cleared ProducerStage.isBlank_free
  | flush =>
    cases timely with
    | true => exact cleared (ProducerStage.isBlank_passing .flush)
    | false => exact cleared ⟨fun _ => id, fun _ => id, fun _ => id⟩
  | sweep =>
    cases timely with
    | true => exact swept rfl (fun _ => id) fun _ => id
    | false => exact swept rfl (fun _ => id) fun _ => id

theorem Ready.dropping (ready : x.Ready) {pass : ClosePass} (stands : x.stage = .dropping pass) :
    ({ x with
        queue := (Producer.resetNotConnected x.queue).2, stage := pass.again } : Scene).Ready := by
  refine ready.sweepLanes id pass.again Serving.giveUp ?_ ?_ ?_
  · intro i
    cases pass with
    | flush => exact (ProducerStage.isBlank_passing .flush).visited i
    | sweep => exact id
  · intro i flushed
    rw [stands]
    cases pass with
    | flush => exact absurd flushed ((ProducerStage.isBlank_passing .flush).flushed i)
    | sweep => exact trivial
  · intro i
    cases pass with
    | flush => exact id
    | sweep => exact id

theorem Ready.sweep (ready : x.Ready) (stands : x.stage = .sweeping) : x.sweep.Ready := by
  have flushed (i : Nat) : x.stage.HasFlushed i := by
    rw [stands]
    exact trivial
  simp only [Scene.sweep]
  split
  · exact ready.sweepLanes Latch.reset (.asleep .sweep) Serving.sweep (fun _ => id)
      (fun i _ => flushed i) fun _ => id
  · exact ready.sweepLanes id .settling Serving.sweep (fun _ => id) (fun i _ => flushed i)
      fun _ => id

theorem Ready.settle (ready : x.Ready) (stands : x.stage = .settling) (live : Liveness) :
    (x.settle live).Kept := by
  rw [Scene.settle]
  split
  · exact fun _ => ready.withBlank ProducerStage.isBlank_failing
  · split
    · refine fun _ => ready.withStage (fun _ _ => False.elim) (fun i _ _ => ?_) fun _ => id
      rw [stands]
      exact trivial
    · exact fun stays => absurd rfl stays

theorem Ready.go (ready : x.Ready) (live : Liveness) : (x.go live).Kept := by
  cases stands : x.stage with
  | passing pass next pending =>
    rw [go_passing live stands]
    exact fun _ => ready.passing stands
  | resetting next =>
    rw [go_resetting live stands]
    exact fun _ => ready.resetNext stands
  | roused wait timely =>
    rw [go_roused live stands]
    exact fun _ => ready.roused stands
  | dropping pass =>
    rw [go_dropping live stands]
    exact fun _ => ready.dropping stands
  | sweeping =>
    rw [go_sweeping live stands]
    exact fun _ => ready.sweep stands
  | settling =>
    rw [go_settling live stands]
    exact ready.settle stands live
  | failing =>
    rw [go_failing live stands]
    exact fun stays => absurd rfl stays
  | _ =>
    rw [Scene.go, stands]
    exact fun _ => ready

theorem Ready.write (ready : x.Ready) (free : x.stage = .free) (i : Nat) (record : Record) :
    (x.write i record).Ready := by
  have blank : x.stage.IsBlank := free ▸ ProducerStage.isBlank_free
  by_cases fits : i < x.queue.consumers ∧ record.length ≤ LengthWord.maxLength
  · obtain ⟨inside, short⟩ := fits
    have written := Producer.write_of_fits (p := x.producer) x.limit inside short
    have put {y : Scene} (added : List Record) (puts : x.Puts y i
        ((x.producer.outlet x.queue i).write x.limit record).1 added)
        (stage : y.stage = x.stage)
        (serving : (x.ports i).mismatched = false → Serving (x.queue.lane i)
          ((x.producer.outlet x.queue i).write x.limit record).1.lane (x.held i)
          ((x.producer.outlet x.queue i).write x.limit record).1.held added) : y.Ready :=
      .blank (stage ▸ blank) (puts.wired ready) (puts.sized ready) (puts.tuned ready inside serving)
    have same : x.ports i = { x.ports i with accepted := (x.ports i).accepted ++ [] } := by
      rw [List.append_nil]
    have awaits (matched : (x.ports i).mismatched = false) :=
      ((ready.tuned i).hears inside matched).awaits matched
    simp only [Scene.write, written]
    by_cases active : (x.slot i).status = .active
    · cases result : ((x.producer.outlet x.queue i).write x.limit record).2 with
      | error cause =>
        refine put [] ⟨rfl, rfl, rfl, same, fun _ _ => rfl⟩ rfl fun matched => ?_
        obtain ⟨skip, queue, awaits⟩ := awaits matched
        have done := (Outlet.write_active (o := x.producer.outlet x.queue i) active awaits x.limit
          short).1
        exact nomatch result.symm.trans done
      | ok done =>
        simp only [active, ↓reduceIte]
        refine put [record] ⟨rfl, rfl, rfl, if_pos rfl, fun _ other => if_neg other⟩ rfl
          fun matched => ?_
        obtain ⟨skip, queue, awaits⟩ := awaits matched
        exact Serving.write (o := x.producer.outlet x.queue i) awaits active short
    · have result : ((x.producer.outlet x.queue i).write x.limit record).2 = .ok () := by
        rw [Outlet.write_closed (o := x.producer.outlet x.queue i) active]
      simp only [result, active, ↓reduceIte]
      exact put [] ⟨rfl, rfl, rfl, same, fun _ _ => rfl⟩ rfl fun _ =>
        Serving.write_closed (o := x.producer.outlet x.queue i) active
  · obtain ⟨cause, written, _⟩ := x.producer.write_refused x.limit x.queue fits
    have made : x.write i record = x := by
      simp only [Scene.write, written]
    rw [made]
    exact ready

end Producer

/-- Where the producer stands still, and its signal stays, a scene is kept up slot by slot. -/
theorem Ready.aside (ready : x.Ready) (stage : y.stage = x.stage)
    (producer : y.producer = x.producer) (outline : y.queue.outline = x.queue.outline)
    (latch : x.queue.sync.producer.isSet = true → y.queue.sync.producer.isSet = true)
    (tuned : ∀ i, y.Tuned i)
    (sleeps : ∀ i, y.Sleeps i → y.queue.sync.producer.isSet = true ∨ x.Sleeps i)
    (ended : ∀ i, i < x.queue.consumers → (x.slot i).status ≠ .active →
      (y.slot i).status ≠ .active) : y.Ready := by
  have consumers : y.queue.consumers = x.queue.consumers := congrArg Outline.slots outline
  have latches : y.queue.sync.consumers.size = x.queue.sync.consumers.size :=
    congrArg Outline.latches outline
  have held (i : Nat) : y.held i = x.held i := by rw [Scene.held, producer]; rfl
  refine ⟨?_, ?_, tuned, ?_, ?_, ?_⟩
  · rw [Queue.Wired, consumers, latches]
    exact ready.wired
  · rw [Producer.Sized, producer, consumers]
    exact ready.sized
  · intro i inside visited kept asleep
    rw [consumers] at inside
    rw [stage] at visited
    rw [held] at kept
    rcases sleeps i asleep with signalled | before
    · exact signalled
    · exact latch (ready.answered i inside visited kept before)
  · intro i inside flushed
    rw [consumers] at inside
    rw [stage] at flushed
    rw [held]
    exact ready.flushed i inside flushed
  · intro i inside failed
    rw [consumers] at inside
    rw [stage] at failed
    exact ended i inside (ready.failed i inside failed)

/-- Only slot `i` and its reader may be another, and no signal to the producer is taken back. -/
structure Beside (x y : Scene) (i : Nat) : Prop where
  stage : y.stage = x.stage
  producer : y.producer = x.producer
  outline : y.queue.outline = x.queue.outline
  latch : x.queue.sync.producer.isSet = true → y.queue.sync.producer.isSet = true
  lanes : ∀ j, j ≠ i → y.queue.lane j = x.queue.lane j
  ports : ∀ j, j ≠ i → y.ports j = x.ports j
  seats : ∀ j, j ≠ i → y.seats j = x.seats j

namespace Beside

variable (beside : x.Beside y i)
include beside

theorem consumers : y.queue.consumers = x.queue.consumers := congrArg Outline.slots beside.outline

theorem held (j : Nat) : y.held j = x.held j := by
  rw [Scene.held, beside.producer]
  rfl

/-- A scene is kept up if it is at the slot that may be another. -/
theorem ready (ready : x.Ready) (tuned : y.Tuned i)
    (sleeps : y.Sleeps i → y.queue.sync.producer.isSet = true ∨ x.Sleeps i)
    (ended : i < x.queue.consumers → (x.slot i).status ≠ .active → (y.slot i).status ≠ .active) :
    y.Ready := by
  refine ready.aside beside.stage beside.producer beside.outline beside.latch (fun j => ?_)
    (fun j asleep => ?_) fun j there closed => ?_
  · by_cases here : j = i
    · exact here ▸ tuned
    · exact (ready.tuned j).congr beside.consumers (beside.lanes j here) (beside.held j)
        (beside.ports j here) (beside.seats j here)
  · by_cases here : j = i
    · subst here
      exact sleeps asleep
    · exact .inr (asleep.congr (beside.lanes j here) (beside.ports j here) (beside.seats j here))
  · by_cases here : j = i
    · subst here
      exact ended there closed
    · rw [Scene.slot, beside.lanes j here]
      exact closed

end Beside

section Reading

variable {point : ReadPoint} {after : Queue × Consumer × ReadStep}

/-- What a reader's section leaves, by what the step of its read comes to. -/
structure Receives (x y : Scene) (i : Nat) (point : ReadPoint)
    (after : Queue × Consumer × ReadStep) : Prop where
  stage : y.stage = x.stage
  producer : y.producer = x.producer
  queue : y.queue = if after.2.2.signalsLate then after.1.unsignalled x.queue else after.1
  own : y.ports i = (x.ports i).after after.2.1 point after.2.2
  ports : ∀ j, j ≠ i → y.ports j = x.ports j
  seat : y.seats i = if after.2.2.signalsLate then .leaving else x.seats i
  seats : ∀ j, j ≠ i → y.seats j = x.seats j

theorem read_receives (x : Scene) (i : Nat) (point : ReadPoint) :
    x.Receives (x.read i point) i point ((x.ports i).consumer.readStep true point x.queue) := by
  simp only [Scene.read]
  split
  · rename_i late
    exact ⟨rfl, rfl, (if_pos late).symm, if_pos rfl, fun _ other => if_neg other,
      (if_pos rfl).trans (if_pos late).symm, fun _ other => if_neg other⟩
  · rename_i early
    exact ⟨rfl, rfl, (if_neg early).symm, if_pos rfl, fun _ other => if_neg other,
      (if_neg early).symm, fun _ _ => rfl⟩

namespace Receives

variable (receives : x.Receives y i point after)
include receives

theorem lane (j : Nat) : y.queue.lane j = after.1.lane j := by
  rw [receives.queue]
  split
  · rfl
  · rfl

theorem outline : y.queue.outline = after.1.outline := by
  rw [receives.queue]
  split
  · rfl
  · rfl

theorem held (j : Nat) : y.held j = x.held j := by
  rw [Scene.held, receives.producer]
  rfl

/-- A reader that goes to sleep has signalled the producer, or is about to. -/
theorem signals (works : (x.ports i).consumer.Works x.queue after) (sleeps : y.Sleeps i) :
    y.queue.sync.producer.isSet = true := by
  have early : ¬ after.2.2.signalsLate = true := by
    intro late
    have present := sleeps.present
    rw [receives.seat, if_pos late] at present
    cases present
  rw [receives.queue, if_neg early]
  refine works.signals (.inr ?_)
  have asleep := sleeps.asleep
  rw [receives.own] at asleep
  cases step : after.2.2 with
  | ended result =>
    rw [step] at asleep
    exact absurd (Port.ended_reading _ point result) asleep
  | sleeps next => exact ⟨next, rfl⟩

theorem tuned (consumers : y.queue.consumers = x.queue.consumers) (inside : i < x.queue.consumers)
    (bound : x.seats i ≠ .absent) (index : after.2.1.index = i) {lulled : Prop}
    (rests : (x.ports i).consumer.Rests x.queue lulled after)
    (hears : (x.ports i).mismatched = false → ∀ seat,
      ((x.ports i).after after.2.1 point after.2.2).Hears seat (after.1.lane i) (x.held i)) :
    y.Tuned i := by
  refine ⟨?_, fun _ => consumers ▸ inside, ?_, ?_, ?_⟩
  · rw [receives.own, Port.after_consumer, index]
  · intro absent
    rw [receives.seat] at absent
    split at absent
    · cases absent
    · exact absurd absent bound
  · intro point' reading
    rw [receives.own] at reading
    cases rests with
    | ends awake result ended =>
      rw [ended] at reading
      exact nomatch (Port.ended_reading _ point result).symm.trans reading
    | sleeps reason lane next status later slept asks =>
      rw [slept] at reading
      cases reading
      exact later
  · intro _ matched
    rw [receives.own] at matched ⊢
    have before : (x.ports i).mismatched = false := by
      cases met : (x.ports i).mismatched with
      | false => rfl
      | true => exact nomatch (Port.after_mismatched _ _ _ _ met).symm.trans matched
    rw [receives.lane, receives.held]
    exact hears before _

end Receives

theorem Ready.read (ready : x.Ready) (present : x.seats i = .present)
    (stands : (x.ports i).StandsAt point) : (x.read i point).Ready := by
  have tuned := ready.tuned i
  have index := tuned.indexed
  have bound : x.seats i ≠ .absent := by
    rw [present]
    exact ReaderStage.noConfusion
  have inside := tuned.inside bound
  have unfinished : point.Unfinished := by
    rcases stands with ⟨-, rfl⟩ | sleeping
    · exact trivial
    · exact tuned.unfinished point sleeping
  have receives := x.read_receives i point
  have frame := (x.ports i).consumer.readStep_frame true point x.queue
  have works := (x.ports i).consumer.readStep_works true point x.queue
  have beside : x.Beside (x.read i point) i := by
    refine ⟨receives.stage, receives.producer, receives.outline.trans
      ((x.ports i).consumer.readStep_steady true point x.queue).outline, fun signalled => ?_,
      fun j other => ?_, receives.ports, receives.seats⟩
    · rw [receives.queue]
      split
      · exact signalled
      · exact works.signals (.inl signalled)
    · rw [receives.lane]
      exact frame.others j (by rw [index]; exact Ne.symm other)
  refine beside.ready ready ?_ (fun asleep => .inl (receives.signals works asleep))
    fun there closed active => ?_
  · exact receives.tuned beside.consumers inside bound (frame.index.trans index)
      ((x.ports i).consumer.readStep_rests x.queue true unfinished) fun matched =>
        (tuned.hears inside matched).read bound matched index inside stands unfinished
  · have same : (x.read i point).slot i =
        (((x.ports i).consumer.readStep true point x.queue).1.lane i).slot :=
      congrArg (·.slot) (receives.lane i)
    rw [same] at active
    have proceeds := (x.ports i).consumer.readStep_proceeds (q := x.queue) true point i there
    exact closed (proceeds.active_of_active active)

end Reading

section Aside

theorem Ready.signal (ready : x.Ready) (leaving : x.seats i = .leaving) :
    ((x.withQueue x.queue.wakeProducer).withSeat i .present).Ready := by
  have beside : x.Beside ((x.withQueue x.queue.wakeProducer).withSeat i .present) i :=
    ⟨rfl, rfl, rfl, fun _ => rfl, fun _ _ => rfl, fun _ _ => rfl, fun _ other => if_neg other⟩
  have seat : ((x.withQueue x.queue.wakeProducer).withSeat i .present).seats i = .present :=
    if_pos rfl
  have tuned := ready.tuned i
  have bound : x.seats i ≠ .absent := by
    rw [leaving]
    exact ReaderStage.noConfusion
  refine beside.ready ready ?_ (fun _ => .inl rfl) fun _ => id
  refine ⟨tuned.indexed, fun _ => tuned.inside bound, ?_, tuned.unfinished, ?_⟩
  · rw [seat]
    exact nofun
  · intro inside matched
    obtain ⟨sound, drained, resting⟩ := tuned.hears inside matched
    exact ⟨sound, fun _ => drained bound, resting⟩

theorem Ready.giveUp (ready : x.Ready) {point : ReadPoint}
    (sleeping : (x.ports i).reading = some point) {cause : Error}
    (other : ∀ expected actual, cause ≠ .longRecordMismatch expected actual) :
    (x.withPort i ((x.ports i).ended point (.error cause))).Ready := by
  have own : (x.withPort i ((x.ports i).ended point (.error cause))).ports i =
      (x.ports i).ended point (.error cause) := if_pos rfl
  have beside : x.Beside (x.withPort i ((x.ports i).ended point (.error cause))) i :=
    ⟨rfl, rfl, rfl, id, fun _ _ => rfl, fun _ other => if_neg other, fun _ _ => rfl⟩
  have tuned := ready.tuned i
  refine beside.ready ready ⟨?_, tuned.inside, fun _ => ?_, ?_, ?_⟩ (fun sleeps => ?_) fun _ => id
  · rw [own, Port.ended_consumer]
    exact tuned.indexed
  · rw [own, Port.ended_reading]
  · rw [own, Port.ended_reading]
    exact nofun
  · rw [own]
    intro inside matched
    rw [Port.ended_of_other _ point other] at matched
    exact (tuned.hears inside matched).giveUp sleeping other
  · have asleep := sleeps.asleep
    rw [own, Port.ended_reading] at asleep
    exact absurd rfl asleep

theorem Ready.withQueue (ready : x.Ready) {q : Queue} (outline : q.outline = x.queue.outline)
    (latch : x.queue.sync.producer.isSet = true → q.sync.producer.isSet = true)
    (rests : x.queue.Lanewise Lane.Rests q)
    (spares : ∀ i, i < x.queue.consumers → x.seats i ≠ .absent → q.lane i = x.queue.lane i) :
    (x.withQueue q).Ready := by
  have consumers : q.consumers = x.queue.consumers := congrArg Outline.slots outline
  refine ready.aside (y := x.withQueue q) rfl rfl outline latch (fun i => ?_)
    (fun i sleeps => ?_) ?_
  · have tuned := ready.tuned i
    refine ⟨tuned.indexed, ?_, tuned.seated, tuned.unfinished, fun inside matched => ?_⟩
    · intro bound
      exact consumers.symm ▸ tuned.inside bound
    · have there : i < x.queue.consumers := consumers ▸ inside
      have hears := tuned.hears there matched
      change (x.ports i).Hears (x.seats i) (q.lane i) (x.held i)
      by_cases absent : x.seats i = .absent
      · rw [absent] at hears ⊢
        exact hears.unattended (tuned.seated absent) (rests i there)
      · rw [spares i there absent]
        exact hears
  · right
    have bound : x.seats i ≠ .absent := by
      have present : x.seats i = .present := sleeps.present
      rw [present]
      exact ReaderStage.noConfusion
    exact sleeps.congr (spares i ((ready.tuned i).inside bound) bound) rfl rfl
  · intro i there closed active
    exact closed ((rests i there).proceeds.active_of_active active)

theorem releaseConsumer_signals (q : Queue) (session : Session)
    (signalled : q.sync.producer.isSet = true) :
    (q.releaseConsumer session).sync.producer.isSet = true := by
  simp only [Queue.releaseConsumer]
  split
  · split
    · exact signalled
    · rfl
  · rfl

/-- A slot that failed is closed for good when somebody wants to attach to it. -/
theorem Ready.refuse (ready : x.Ready) (inside : i < x.queue.consumers)
    (closed : ¬ (x.queue.lane i).slot.IsOpen) :
    (x.withQueue (x.queue.setLane i ((x.queue.lane i).withStatus .done)).wakeProducer).Ready := by
  have self := ready.wired.lane_setLane inside ((x.queue.lane i).withStatus .done)
  have beside : x.Beside
      (x.withQueue (x.queue.setLane i ((x.queue.lane i).withStatus .done)).wakeProducer) i :=
    ⟨rfl, rfl, Queue.setLane_outline .., fun _ => rfl,
      fun j other => x.queue.lane_setLane_other (Ne.symm other) _, fun _ _ => rfl, fun _ _ => rfl⟩
  have tuned := ready.tuned i
  refine beside.ready ready ?_ (fun _ => .inl rfl) fun _ _ => ?_
  · refine ⟨tuned.indexed, fun _ => beside.consumers.symm ▸ inside, tuned.seated, tuned.unfinished,
      fun _ matched => ?_⟩
    change (x.ports i).Hears (x.seats i) ((x.queue.setLane i _).lane i) (x.held i)
    rw [self]
    exact (tuned.hears inside matched).shut closed
  · change ((x.queue.setLane i _).lane i).slot.status ≠ .active
    rw [self]
    exact SlotStatus.noConfusion

/-- A reader attaches to a slot that is open and has no reader. -/
theorem Ready.admit (ready : x.Ready) (inside : i < x.queue.consumers)
    (opened : (x.queue.lane i).slot.IsOpen) (absent : x.seats i = .absent) (session : Session)
    {consumer : Consumer} (index : consumer.index = i) :
    (((x.withQueue (x.queue.setLane i ⟨{ (x.queue.lane i).slot with pid := session.pid },
        (x.queue.lane i).latch.own session.pid⟩)).withPort i
      { x.ports i with consumer }).withSeat i .present).Ready := by
  obtain ⟨l, lane⟩ : ∃ l : Lane, l = ⟨{ (x.queue.lane i).slot with pid := session.pid },
    (x.queue.lane i).latch.own session.pid⟩ := ⟨_, rfl⟩
  obtain ⟨y, made⟩ : ∃ y, y = ((x.withQueue (x.queue.setLane i l)).withPort i
    { x.ports i with consumer }).withSeat i .present := ⟨_, rfl⟩
  have beside : x.Beside y i := by
    rw [made]
    exact ⟨rfl, rfl, Queue.setLane_outline .., id,
      fun j other => x.queue.lane_setLane_other (Ne.symm other) l, fun _ other => if_neg other,
      fun _ other => if_neg other⟩
  have self : y.queue.lane i = l := by
    rw [made]
    exact ready.wired.lane_setLane inside l
  have port : y.ports i = { x.ports i with consumer } := by rw [made]; exact if_pos rfl
  have seat : y.seats i = .present := by rw [made]; exact if_pos rfl
  have tuned := ready.tuned i
  have idle := tuned.seated absent
  rw [← lane, ← made]
  refine beside.ready ready
    ⟨?_, fun _ => beside.consumers.symm ▸ inside, ?_, ?_, fun _ matched => ?_⟩
    (fun sleeps => ?_) fun _ closed => ?_
  · rw [port]
    exact index
  · rw [port]
    exact fun _ => idle
  · rw [port]
    exact tuned.unfinished
  · rw [port] at matched ⊢
    rw [seat, self, beside.held, lane]
    exact (tuned.hears inside matched).attach idle opened session consumer
  · have asleep := sleeps.asleep
    rw [port] at asleep
    exact absurd idle asleep
  · rw [Scene.slot, self, lane]
    exact closed

/-- Who wants a slot and is turned away leaves the readers of the queue alone. -/
theorem Ready.turnsAway (ready : x.Ready) {session : Session} {name : String} {q : Queue}
    {cause : Error} (refused : x.queue.bindConsumer session name = (q, .error cause)) :
    (x.withQueue q).Ready := by
  cases x.queue.bindConsumer_admits session name with
  | refuses cause made =>
    cases made.symm.trans refused
    exact ready
  | closes i inside closed cause made =>
    cases made.symm.trans refused
    exact ready.refuse inside closed
  | attaches i inside free opened made => cases made.symm.trans refused

theorem Ready.attach (ready : x.Ready) {session : Session} {name : String} {q : Queue}
    (admitted : x.queue.bindConsumer session name = (q, .ok i)) (absent : x.seats i = .absent)
    {consumer : Consumer} (index : consumer.index = i) :
    (((x.withQueue q).withPort i { x.ports i with consumer }).withSeat i .present).Ready := by
  cases x.queue.bindConsumer_admits session name with
  | refuses cause made => cases made.symm.trans admitted
  | closes i inside closed cause made => cases made.symm.trans admitted
  | attaches i inside free opened made =>
    cases made.symm.trans admitted
    exact ready.admit inside opened absent session index

end Aside

/-- A producer that wakes up behind a sweep still knows that it holds nothing back. -/
theorem Ready.wake (ready : x.Ready) {wait : Wait} (asleep : x.stage = .asleep wait)
    (timely : Bool) : (x.withStage (.roused wait timely)).Ready := by
  refine ready.withStage (fun _ _ => False.elim) (fun i _ flushed => ?_) fun _ => id
  rw [asleep]
  cases wait with
  | sweep => exact trivial
  | _ => exact absurd flushed id

section Turns

variable {cue : Cue}

/-- What a cue makes of a scene. -/
inductive Turns (x : Scene) : Cue → Scene → Prop where
  /-- The cue does not suit where its party stands. -/
  | stays {cue : Cue} : Turns x cue x
  | begins {cue : Cue} {stage : ProducerStage} (free : x.stage = .free) (blank : stage.IsBlank) :
      Turns x cue (x.withStage stage)
  | writes (free : x.stage = .free) (i : Nat) (record : Record) :
      Turns x (.write i record) (x.write i record)
  | goes (live : Liveness) : Turns x (.go live) (x.go live)
  | wakes {wait : Wait} (asleep : x.stage = .asleep wait) (timely : Bool) :
      Turns x (.wake timely) (x.withStage (.roused wait timely))
  | fails : Turns x .fail (x.withStage x.stage.failed)
  | refuses {session : Session} {name : String} {q : Queue} {cause : Error}
      (refused : x.queue.bindConsumer session name = (q, .error cause)) :
      Turns x (.attach session name) (x.withQueue q)
  | attaches {session : Session} {name : String} {q : Queue} {i : Nat}
      (admitted : x.queue.bindConsumer session name = (q, .ok i)) (absent : x.seats i = .absent)
      {consumer : Consumer} (index : consumer.index = i) :
      Turns x (.attach session name)
        (((x.withQueue q).withPort i { x.ports i with consumer }).withSeat i .present)
  | releases (session : Session) :
      Turns x (.release session) (x.withQueue (x.queue.releaseConsumer session))
  | disconnects (session : Session) :
      Turns x (.disconnect session) (x.withQueue (x.queue.disconnect session))
  | reads {cue : Cue} {i : Nat} {point : ReadPoint} (present : x.seats i = .present)
      (stands : (x.ports i).StandsAt point) : Turns x cue (x.read i point)
  | signals {i : Nat} (leaving : x.seats i = .leaving) :
      Turns x (.signal i) ((x.withQueue x.queue.wakeProducer).withSeat i .present)
  | givesUp {i : Nat} {live : Liveness} {point : ReadPoint} {cause : Error}
      (sleeping : (x.ports i).reading = some point) (failed : live.check = .error cause) :
      Turns x (.giveUp i live) (x.withPort i ((x.ports i).ended point (.error cause)))

theorem call_turns {y : Scene} (begun : x.stage = .free → x.Turns cue y) :
    x.Turns cue (x.call y) := by
  rw [call]
  split
  · rename_i free
    exact begun free
  · exact .stays

theorem perform_turns (x : Scene) (cue : Cue) : x.Turns cue (x.perform cue) := by
  cases cue with
  | write i record => exact call_turns fun free => .writes free i record
  | finish => exact call_turns fun free => .begins free (ProducerStage.isBlank_passing .finish)
  | drain => exact call_turns fun free => .begins free (ProducerStage.isBlank_passing .drain)
  | wait => exact call_turns fun free => .begins free ProducerStage.isBlank_asleep
  | reset => exact call_turns fun free => .begins free ProducerStage.isBlank_resetting
  | unbind => exact call_turns fun free => .begins free (ProducerStage.isBlank_passing .flush)
  | go live => exact .goes live
  | wake timely =>
    simp only [perform, wake]
    split
    · rename_i asleep
      split
      · exact .wakes asleep timely
      · exact .stays
    · exact .stays
  | fail => exact .fails
  | attach session name =>
    simp only [perform, attach]
    split
    · rename_i refused
      exact .refuses refused
    · rename_i admitted
      split
      · rename_i absent
        exact .attaches admitted absent rfl
      · exact .stays
  | release session => exact .releases session
  | disconnect session => exact .disconnects session
  | read i =>
    simp only [perform]
    split
    · rename_i begins
      exact .reads begins.1 (.inl ⟨begins.2, rfl⟩)
    · exact .stays
  | resume i =>
    simp only [perform]
    split
    · rename_i sleeping
      split
      · rename_i wakes
        exact .reads wakes.1 (.inr sleeping)
      · exact .stays
    · exact .stays
  | signal i =>
    simp only [perform]
    split
    · rename_i leaving
      exact .signals leaving
    · exact .stays
  | giveUp i live =>
    simp only [perform]
    split
    · rename_i sleeping failed
      split
      · exact .givesUp sleeping failed
      · exact .stays
    · exact .stays

theorem Turns.kept (turns : x.Turns cue y) (ready : x.Ready) (spares : x.Spares cue) : y.Kept := by
  cases turns with
  | stays => exact fun _ => ready
  | begins free blank => exact fun _ => ready.withBlank blank
  | writes free i record => exact fun _ => ready.write free i record
  | goes live => exact ready.go live
  | wakes asleep timely => exact fun _ => ready.wake asleep timely
  | fails =>
    intro stays
    refine ready.withBlank (ProducerStage.failed_isBlank fun gone => stays ?_)
    change x.stage.failed = .gone
    rw [gone]
    rfl
  | refuses refused => exact fun _ => ready.turnsAway refused
  | attaches admitted absent index => exact fun _ => ready.attach admitted absent index
  | releases session =>
    exact fun _ => ready.withQueue (Queue.releaseConsumer_outline ..)
      (releaseConsumer_signals x.queue session) (Queue.releaseConsumer_rests x.queue session) spares
  | disconnects session =>
    exact fun _ => ready.withQueue (Queue.disconnect_outline ..) (fun _ => rfl)
      (Queue.disconnect_rests x.queue session) spares
  | reads present stands => exact fun _ => ready.read present stands
  | signals leaving => exact fun _ => ready.signal leaving
  | givesUp sleeping failed => exact fun _ => ready.giveUp sleeping (Liveness.check_other failed)

/-- Every critical section keeps a scene in order, as long as no bound reader loses its slot. -/
theorem Ready.perform (ready : x.Ready) (spares : x.Spares cue) : (x.perform cue).Kept :=
  (x.perform_turns cue).kept ready spares

theorem Turns.gone (turns : x.Turns cue y) (gone : x.stage = .gone) : y.stage = .gone := by
  cases turns with
  | begins free blank =>
    rw [gone] at free
    cases free
  | writes free i record =>
    rw [gone] at free
    cases free
  | goes live =>
    rw [go, gone]
    exact gone
  | wakes asleep timely =>
    rw [gone] at asleep
    cases asleep
  | fails =>
    change x.stage.failed = .gone
    rw [gone]
    rfl
  | reads present stands => exact (x.read_receives _ _).stage.trans gone
  | _ => exact gone

/-- A producer that let go of the queue does not come back. -/
theorem perform_gone (gone : x.stage = .gone) (cue : Cue) : (x.perform cue).stage = .gone :=
  (x.perform_turns cue).gone gone

theorem Kept.perform (kept : x.Kept) (spares : x.Spares cue) : (x.perform cue).Kept := by
  intro stays
  have before : x.stage ≠ .gone := fun gone => stays (perform_gone gone cue)
  exact (kept before).perform spares stays

end Turns

end Scene

end RecordExchange
