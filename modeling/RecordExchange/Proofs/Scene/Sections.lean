import RecordExchange.Proofs.Commons.Settling
import RecordExchange.Proofs.Scene.Run

set_option autoImplicit false

/-!
Critical sections behind each other.

A call that nobody overtakes carries out its critical sections one after another, and what they come
to is what the call does as a whole.
-/

namespace RecordExchange

namespace Queue

section WakenIf

variable (q : Queue) (some other : Bool)

theorem wakenIf_wakenIf : (q.wakenIf some).wakenIf other = q.wakenIf (some || other) := by
  cases some <;> cases other <;> rfl

theorem setLanesFrom_wakenIf (i : Nat) (lanes : List Lane) :
    (q.wakenIf some).setLanesFrom i lanes = (q.setLanesFrom i lanes).wakenIf some := by
  cases some with
  | false => rfl
  | true =>
    induction lanes generalizing q i with
    | nil => rfl
    | cons l rest ih => exact ih (q.setLane i l) (i + 1)

end WakenIf

end Queue

/-- The queues agree in their lanes and in the producer's latch. -/
structure Queue.Resembles (q r : Queue) : Prop where
  lane : ∀ i, q.lane i = r.lane i
  producer : q.sync.producer = r.sync.producer

namespace Queue.Resembles

variable {s : Segment} {h : Handle}

theorem refl (q : Queue) : q.Resembles q := ⟨fun _ => rfl, rfl⟩

theorem put (has : s.Has h) (q : Queue) : q.Resembles ((s.setQueue h q).queue h) := by
  rw [has.queue_setQueue]
  exact .refl q

/-- A reference less makes no difference to those who are at work on the queue. -/
theorem dropped (has : s.Has h) (q : Queue) :
    q.dropReference.Resembles (((s.setQueue h q).dropReference h).queue h) := by
  have same := put has q
  refine ⟨fun i => ?_, ?_⟩
  · exact (same.lane i).trans (Segment.dropReference_lane (s.setQueue h q) h h i).symm
  · exact same.producer.trans (Segment.dropReference_producer (s.setQueue h q) h h.block).symm

end Queue.Resembles

def ClosePass.wait : ClosePass → Wait
  | .flush => .flush
  | .sweep => .sweep

def ClosePoint.stage : ClosePoint → ProducerStage
  | .run pass => pass.again
  | .woken pass => .roused pass.wait true
  | .timedOut pass => .roused pass.wait false
  | .settle => .settling

def CloseStep.stage : CloseStep → ProducerStage
  | .goesOn point => point.stage
  | .waits pass => .asleep pass.wait
  | .ended _ => .gone

def Pass.outcome (pass : Pass) : Except Error Nat → ProducerStage
  | .ok pending => pass.ended pending
  | .error _ => pass.failed

namespace Scene

variable {x : Scene} {i next : Nat}

/-- So many critical sections of the producer's call, with nobody in between. -/
def sections (x : Scene) (live : Liveness) (n : Nat) : Scene :=
  x.run (List.replicate n (.go live))

theorem sections_succ (x : Scene) (live : Liveness) (n : Nat) :
    x.sections live (n + 1) = (x.go live).sections live n := rfl

/-- A pass from some outlet on finishes it and those behind it. -/
theorem sections_passFrom (live : Liveness) {pass : Pass} {pending : Nat} (n : Nat)
    (stands : x.stage = .passing pass next pending) (size : next + n = x.queue.consumers) :
    ∃ steps, x.sections live steps =
      { x with
        producer := (x.producer.setOutletsFrom x.queue next
          (Outlet.finishAll ((List.range' next n).map (x.producer.outlet x.queue))).1).1
        queue := (x.producer.setOutletsFrom x.queue next
          (Outlet.finishAll ((List.range' next n).map (x.producer.outlet x.queue))).1).2
        stage := pass.outcome
          ((Outlet.finishAll ((List.range' next n).map (x.producer.outlet x.queue))).2.map
            (pending + ·)) } := by
  induction n generalizing x next pending with
  | zero =>
    refine ⟨1, ?_⟩
    have past : ¬ next < x.queue.consumers := by omega
    rw [sections_succ, go, stands]
    simp only [Scene.pass, past, ↓reduceIte]
    rfl
  | succ n ih =>
    have inside : next < x.queue.consumers := by omega
    have first : x.go live = x.pass pass next pending := by rw [go, stands]
    obtain ⟨o, result, finished⟩ : ∃ o result,
        (x.producer.outlet x.queue next).finish = (o, result) := ⟨_, _, rfl⟩
    have behind := x.producer.outlets_behind x.queue next o n
    rw [List.range'_succ, List.map_cons, Outlet.finishAll, finished]
    simp only [Scene.pass, inside, finished, ↓reduceIte] at first
    cases result with
    | error cause =>
      refine ⟨1, ?_⟩
      have rest := Producer.setOutletsFrom_outlets (x.producer.setOutlet x.queue next o).1
        (x.producer.setOutlet x.queue next o).2 (next + 1) n
      rw [behind] at rest
      rw [sections_succ, first]
      simp only [Producer.setOutletsFrom, rest]
      rfl
    | ok more =>
      have size : next + 1 + n = (x.go live).queue.consumers := by
        rw [first]
        change _ = (x.queue.setLane next o.lane).consumers
        rw [Queue.setLane_consumers]
        omega
      have goesOn : (x.go live).stage = .passing pass (next + 1) (pending + more) := by rw [first]
      obtain ⟨steps, later⟩ := ih goesOn size
      refine ⟨steps + 1, ?_⟩
      rw [sections_succ, later, first]
      simp only [behind, Producer.setOutletsFrom]
      congr 1
      cases (Outlet.finishAll ((List.range' (next + 1) n).map (x.producer.outlet x.queue))).2 with
      | error cause => rfl
      | ok sum => exact congrArg pass.ended (Nat.add_assoc ..)

/-- A pass that nobody overtakes is a pass. -/
theorem sections_pass (live : Liveness) {pass : Pass} (stands : x.stage = .passing pass 0 0) :
    ∃ steps, x.sections live steps =
      { x with
        producer := (x.producer.finish x.queue).1
        queue := (x.producer.finish x.queue).2.1
        stage := pass.outcome (x.producer.finish x.queue).2.2 } := by
  obtain ⟨steps, passed⟩ := sections_passFrom live x.queue.consumers stands (Nat.zero_add _)
  have outlets : (List.range' 0 x.queue.consumers).map (x.producer.outlet x.queue) =
      x.producer.outlets x.queue := by
    rw [Producer.outlets, List.range_eq_range']
  have same (result : Except Error Nat) : result.map (0 + ·) = result := by
    cases result with
    | error cause => rfl
    | ok pending => exact congrArg Except.ok (Nat.zero_add pending)
  rw [outlets, same] at passed
  exact ⟨steps, passed⟩

/-- Giving the queue up from some slot on fails that and those behind it. -/
theorem sections_resetFrom (live : Liveness) (n : Nat) (stands : x.stage = .resetting next)
    (size : next + n = x.queue.consumers) :
    ∃ steps, x.sections live steps =
      { x with
        producer := x.producer.dropOverflow
        queue := (x.queue.setLanesFrom next
          (((List.range' next n).map x.queue.lane).map Producer.failLane)).wakenIf
            (((List.range' next n).map x.queue.lane).any Producer.isFailing)
        stage := .free } := by
  induction n generalizing x next with
  | zero =>
    refine ⟨1, ?_⟩
    have past : ¬ next < x.queue.consumers := by omega
    rw [sections_succ, go, stands]
    simp only [resetNext, past, ↓reduceIte]
    rfl
  | succ n ih =>
    have inside : next < x.queue.consumers := by omega
    have first : x.go live = x.resetNext next := by rw [go, stands]
    simp only [resetNext, inside, ↓reduceIte] at first
    obtain ⟨l, same⟩ : ∃ l, l = x.queue.lane next := ⟨_, rfl⟩
    have behind := x.queue.lanes_behind next n (Producer.failLane l)
    have queue : (x.go live).queue =
        (x.queue.setLane next (Producer.failLane l)).wakenIf (Producer.isFailing l) := by
      rw [first, ← same]
    have lane : (x.go live).queue.lane = (x.queue.setLane next (Producer.failLane l)).lane := by
      rw [queue, Queue.wakenIf_lane]
    obtain ⟨steps, later⟩ := ih (x := x.go live) (by rw [first]) (by
      rw [queue, Queue.wakenIf_consumers, Queue.setLane_consumers]
      omega)
    refine ⟨steps + 1, ?_⟩
    rw [sections_succ, later, lane, behind, queue, Queue.setLanesFrom_wakenIf,
      Queue.wakenIf_wakenIf,
      List.range'_succ, List.map_cons, List.map_cons, List.any_cons, ← same, first]
    rfl

theorem sections_reset (live : Liveness) (stands : x.stage = .resetting 0) :
    ∃ steps, x.sections live steps =
      { x with
        producer := (x.producer.reset x.queue).1
        queue := (x.producer.reset x.queue).2
        stage := .free } := by
  obtain ⟨steps, failed⟩ := sections_resetFrom live x.queue.consumers stands (Nat.zero_add _)
  rw [← List.range_eq_range'] at failed
  exact ⟨steps, failed⟩

/-- Abandoning the queue in a scene and in a segment. -/
theorem abandon_resembles {s : Segment} {h : Handle} (has : s.Has h)
    (handle : x.producer.handle = h) (shows : x.queue = s.queue h) :
    x.abandon.queue.Resembles ((x.producer.abandon s).2.queue h) := by
  subst handle
  rw [abandon, shows]
  exact .dropped has _

theorem sections_add (x : Scene) (live : Liveness) (m n : Nat) :
    x.sections live (m + n) = (x.sections live m).sections live n := by
  rw [sections, List.replicate_add, run, List.foldl_append]
  rfl

structure Shows (x : Scene) (h : Handle) (after : Producer × Segment × CloseStep) : Prop where
  producer : x.producer = after.1
  stage : x.stage = after.2.2.stage
  queue : x.queue.Resembles (after.2.1.queue h)

section Closing

variable {s : Segment} (has : s.Has x.producer.handle)
  (shows : x.queue = s.queue x.producer.handle) (live : Liveness)
include has shows

theorem sections_flush (stands : x.stage = .passing .flush 0 0) :
    ∃ steps, (x.sections live steps).Shows x.producer.handle
      (x.producer.closeStep s false live (.run .flush)) := by
  obtain ⟨steps, passed⟩ := sections_pass live stands
  obtain ⟨p, q, result, found⟩ : ∃ p q result, x.producer.finish x.queue = (p, q, result) :=
    ⟨_, _, _, rfl⟩
  have handle : p.handle = x.producer.handle := by
    have same := x.producer.finish_handle x.queue
    rw [found] at same
    exact same
  rw [found] at passed
  rw [shows] at found
  cases result with
  | error cause =>
    have failed : (x.sections live steps).stage = .failing := by rw [passed]; rfl
    refine ⟨steps + 1, ?_⟩
    rw [Producer.closeStep_flush_failed found, sections_add, sections_succ, go_failing live failed,
      passed]
    refine ⟨rfl, rfl, ?_⟩
    rw [handle]
    exact abandon_resembles (has.setQueue q) handle (has.queue_setQueue q).symm
  | ok pending =>
    refine ⟨steps, ?_⟩
    rw [passed]
    cases pending with
    | zero =>
      rw [Producer.closeStep_flush_done found, handle]
      exact ⟨rfl, rfl, .put has q⟩
    | succ pending =>
      rw [Producer.closeStep_flush_pending found, handle]
      exact ⟨rfl, rfl, .put has q⟩

theorem sections_roused (pass : ClosePass) (timely : Bool)
    (stands : x.stage = .roused pass.wait timely) :
    ∃ steps, (x.sections live steps).Shows x.producer.handle
      (x.producer.closeStep s false live (if timely then .woken pass else .timedOut pass)) := by
  have first := go_roused live stands
  cases timely with
  | true =>
    refine ⟨1, ?_⟩
    rw [sections_succ, first]
    cases pass with
    | flush => exact ⟨rfl, rfl, shows ▸ .put has _⟩
    | sweep => exact ⟨rfl, rfl, shows ▸ .refl _⟩
  | false =>
    refine ⟨2, ?_⟩
    cases pass with
    | flush =>
      have dropping : (x.go live).stage = .dropping .flush := by rw [first]; rfl
      rw [sections_succ, sections_succ, go_dropping live dropping, first]
      exact ⟨rfl, rfl, shows ▸ .put has _⟩
    | sweep =>
      have dropping : (x.go live).stage = .dropping .sweep := by rw [first]; rfl
      rw [sections_succ, sections_succ, go_dropping live dropping, first]
      exact ⟨rfl, rfl, shows ▸ .put has _⟩

theorem sections_sweep (stands : x.stage = .sweeping) :
    ∃ steps, (x.sections live steps).Shows x.producer.handle
      (x.producer.closeStep s false live (.run .sweep)) := by
  refine ⟨1, ?_⟩
  rw [sections_succ, go_sweeping live stands]
  change (x.sweep).Shows _ _
  by_cases awaited : x.queue.lanes.any Producer.isAwaited = true
  · rw [Producer.closeStep_sweep_waits (by rw [← shows]; exact awaited)]
    simp only [sweep, awaited, ↓reduceIte]
    exact ⟨rfl, rfl, shows ▸ .put has _⟩
  · rw [Producer.closeStep_sweep_done (by rw [← shows]; exact awaited)]
    simp only [sweep, awaited, Bool.false_eq_true, ↓reduceIte]
    exact ⟨rfl, rfl, shows ▸ .put has _⟩

theorem sections_settle (stands : x.stage = .settling) :
    ∃ steps, (x.sections live steps).Shows x.producer.handle
      (x.producer.closeStep s false live .settle) := by
  have first := go_settling live stands
  rw [settle] at first
  cases checked : live.check with
  | error cause =>
    refine ⟨2, ?_⟩
    rw [checked] at first
    rw [Producer.closeStep_settle_failed checked, sections_succ, sections_succ,
      go_failing live (by rw [first]; rfl), first]
    exact ⟨rfl, rfl, abandon_resembles has rfl shows⟩
  | ok done =>
    refine ⟨1, ?_⟩
    rw [checked] at first
    rw [sections_succ, first]
    by_cases running : x.queue.lanes.any Producer.isRunning = true
    · rw [Producer.closeStep_settle_running checked (by rw [← shows]; exact running)]
      simp only [running, ↓reduceIte]
      exact ⟨rfl, rfl, shows ▸ .refl _⟩
    · rw [Producer.closeStep_settle_over checked (by rw [← shows]; exact running)]
      simp only [running, Bool.false_eq_true, ↓reduceIte]
      exact ⟨rfl, rfl, shows ▸ .dropped has _⟩

/-- One step of unbinding that nobody overtakes is that step. -/
theorem sections_close (point : ClosePoint) (stands : x.stage = point.stage) :
    ∃ steps, (x.sections live steps).Shows x.producer.handle
      (x.producer.closeStep s false live point) := by
  match point with
  | .run .flush => exact sections_flush has shows live stands
  | .run .sweep => exact sections_sweep has shows live stands
  | .woken pass => exact sections_roused has shows live pass true stands
  | .timedOut pass => exact sections_roused has shows live pass false stands
  | .settle => exact sections_settle has shows live stands

end Closing

end Scene

namespace Consumer

variable {c : Consumer} {q : Queue} {canWait : Bool} {point : ReadPoint}

/-- If the step signals the producer late, the signal is the last thing it does. -/
def SignalsLast (q : Queue) (after : Queue × Consumer × ReadStep) : Prop :=
  after.2.2.signalsLate = true → (after.1.unsignalled q).wakeProducer = after.1

theorem SignalsLast.of_early {q : Queue} {after : Queue × Consumer × ReadStep}
    (early : after.2.2.signalsLate = false) : SignalsLast q after := fun late =>
  absurd (early.symm.trans late) Bool.false_ne_true

theorem fail_signalsLast (c : Consumer) (q : Queue) (status : SlotStatus) :
    SignalsLast q (c.fail q status) := by
  rw [fail]
  split
  · exact .of_early rfl
  · exact fun _ => rfl

theorem deliver_signalsLast (c : Consumer) (q : Queue) (ring : Ring) (payload : Record) :
    SignalsLast q (c.deliver q ring payload) := by
  rcases deliver_cases c q ring payload with ⟨-, made⟩ | ⟨-, made⟩
  · rw [made]
    exact .of_early rfl
  · rw [made]
    exact .of_early rfl

theorem pull_signalsLast (c : Consumer) (q : Queue) (ring : Ring) (record : LongRecord)
    (remaining : Nat) : SignalsLast q (c.pull q ring record remaining) := by
  rw [pull]
  split
  · exact deliver_signalsLast c q _ _
  · split
    · exact .of_early rfl
    · exact .of_early rfl

theorem readStep_signalsLast (c : Consumer) (q : Queue) (canWait : Bool) (point : ReadPoint) :
    SignalsLast q (c.readStep canWait point q) := by
  cases point with
  | row =>
    simp only [readStep]
    split
    · split
      · exact fun _ => rfl
      · split
        · exact fun _ => rfl
        · exact .of_early rfl
      · exact fail_signalsLast c q _
    · split
      · exact pull_signalsLast c q _ _ _
      · exact deliver_signalsLast c q _ _
  | chunk record =>
    simp only [readStep]
    split
    · exact fail_signalsLast c q _
    · exact fail_signalsLast c q _
    · split
      · exact .of_early rfl
      · by_cases next : (q.lane c.index).slot.ring.readLength.1 = record.missing
        · rw [Ring.resumeLong_of_eq next]
          exact pull_signalsLast c q _ _ _
        · rw [Ring.resumeLong_of_ne next]
          exact .of_early rfl

end Consumer

namespace Scene

variable {x : Scene} {i : Nat}

/-- The sections of a step of a read, with nobody in between: it signals the producer in the end, if
it did not before. -/
def readThrough (x : Scene) (i : Nat) (point : ReadPoint) : Scene :=
  (x.read i point).perform (.signal i)

/-- A step of a read that nobody overtakes is that step. -/
theorem readThrough_eq (present : x.seats i = .present) (point : ReadPoint) :
    x.readThrough i point =
      (x.withQueue ((x.ports i).consumer.readStep true point x.queue).1).withPort i
        ((x.ports i).after ((x.ports i).consumer.readStep true point x.queue).2.1 point
          ((x.ports i).consumer.readStep true point x.queue).2.2) := by
  have last := (x.ports i).consumer.readStep_signalsLast x.queue true point
  obtain ⟨q, c, step, read⟩ : ∃ q c step,
      (x.ports i).consumer.readStep true point x.queue = (q, c, step) := ⟨_, _, _, rfl⟩
  rw [read] at last ⊢
  simp only [readThrough, Scene.read, read]
  cases late : step.signalsLate with
  | false =>
    simp only [perform, Bool.false_eq_true, ↓reduceIte]
    rw [if_neg]
    · rfl
    · change x.seats i ≠ .leaving
      rw [present]
      exact ReaderStage.noConfusion
  | true =>
    have seats (seat : ReaderStage) :
        (((x.withPort i ((x.ports i).after c point step)).withQueue
          (q.unsignalled x.queue)).withSeat i seat).seats i = seat := if_pos rfl
    simp only [perform, seats, ↓reduceIte]
    change _ = { x.withPort i ((x.ports i).after c point step) with queue := q }
    rw [withSeat, withQueue]
    congr 1
    · exact last late
    · funext j
      change (if j = i then _ else if j = i then _ else x.seats j) = x.seats j
      split
      · rename_i same
        rw [same, present]
      · rfl

/-- The critical sections that begin here, with nobody in between, come to what the program's
functions do: a pass over the outlets, giving the queue up, a step of unbinding in a segment that
holds the queue, and a step of a read. -/
structure CarriesOut (x : Scene) : Prop where
  passes : ∀ (live : Liveness) (pass : Pass), x.stage = .passing pass 0 0 →
    ∃ steps, x.sections live steps =
      { x with
        producer := (x.producer.finish x.queue).1
        queue := (x.producer.finish x.queue).2.1
        stage := pass.outcome (x.producer.finish x.queue).2.2 }
  resets : ∀ live : Liveness, x.stage = .resetting 0 →
    ∃ steps, x.sections live steps =
      { x with
        producer := (x.producer.reset x.queue).1
        queue := (x.producer.reset x.queue).2
        stage := .free }
  closes : ∀ (s : Segment) (live : Liveness) (point : ClosePoint), s.Has x.producer.handle →
    x.queue = s.queue x.producer.handle → x.stage = point.stage →
    ∃ steps, (x.sections live steps).Shows x.producer.handle
      (x.producer.closeStep s false live point)
  reads : ∀ (i : Nat) (point : ReadPoint), x.seats i = .present →
    x.readThrough i point =
      (x.withQueue ((x.ports i).consumer.readStep true point x.queue).1).withPort i
        ((x.ports i).after ((x.ports i).consumer.readStep true point x.queue).2.1 point
          ((x.ports i).consumer.readStep true point x.queue).2.2)

theorem carriesOut (x : Scene) : x.CarriesOut where
  passes live _ stands := sections_pass live stands
  resets live stands := sections_reset live stands
  closes _ live point has shows stands := sections_close has shows live point stands
  reads _ point present := readThrough_eq present point

end Scene

end RecordExchange
