import RecordExchange.Proofs.Commons.Allotment
import RecordExchange.Proofs.Commons.Wakeups
import RecordExchange.Proofs.Scene.Sections
import RecordExchange.Proofs.Scene.Steps

set_option autoImplicit false

/-!
No standoff.

A producer and a reader that both sleep and were both not signalled have nothing to tell each other,
as long as the reader met no mismatch: it has missed nothing, and behind a pass that left something
for a sleeping reader, that reader signalled. Readers that wait for the rest of a long record meet
no mismatch.
-/

namespace RecordExchange

structure Queue.Alters (R : Lane → Lane → Prop) (before after : Queue) : Prop where
  consumers : after.consumers = before.consumers
  lanes : before.Lanewise R after

/-- Work that leaves the shape of a queue alone keeps its slots. -/
theorem Queue.Lanewise.alters {R : Lane → Lane → Prop} {before after : Queue}
    (lanes : before.Lanewise R after) (outline : after.outline = before.outline) :
    before.Alters R after :=
  ⟨congrArg Outline.slots outline, lanes⟩

namespace Scene

variable {x y : Scene} {i : Nat} {cue : Cue}

section Lanes

variable {R : Lane → Lane → Prop} (obeys : Producer.Obeys R) (others : Queue.OthersObey R)

section Producer

include obeys

theorem alters_refl (q : Queue) : q.Alters R q := ⟨rfl, fun _ _ => obeys.refl _⟩

theorem Ready.pass_alters (ready : x.Ready) (pass : Pass) (next pending : Nat) :
    x.queue.Alters R (x.pass pass next pending).queue := by
  by_cases inside : next < x.queue.consumers
  · have puts := pass_puts pass pending inside
    refine ⟨puts.consumers, fun i there => ?_⟩
    by_cases here : i = next
    · subst here
      rw [puts.lane_self ready inside]
      exact obeys.finishes (x.producer.outlet x.queue i)
    · rw [puts.lane_other here]
      exact obeys.refl _
  · rw [pass_ends inside]
    exact alters_refl obeys x.queue

theorem failLane_obeys (l : Lane) : R l (Producer.failLane l) := by
  rw [Producer.failLane]
  cases status : l.slot.status with
  | active => exact obeys.fails (.inl status)
  | error => exact obeys.fails (.inr status)
  | eof => exact obeys.refl _
  | done => exact obeys.refl _

theorem Ready.resetNext_alters (ready : x.Ready) (next : Nat) :
    x.queue.Alters R (x.resetNext next).queue := by
  by_cases inside : next < x.queue.consumers
  · rw [resetNext_inside inside]
    refine ⟨?_, fun i there => ?_⟩
    · rw [Queue.wakenIf_consumers, Queue.setLane_consumers]
    · rw [Queue.wakenIf_lane]
      by_cases here : next = i
      · subst here
        rw [ready.wired.lane_setLane inside]
        exact failLane_obeys obeys _
      · rw [Queue.lane_setLane_other _ here]
        exact obeys.refl _
  · simp only [Scene.resetNext, inside, ↓reduceIte]
    exact alters_refl obeys x.queue

theorem Ready.sweepLane_alters (ready : x.Ready) (failed : Bool) :
    x.queue.Alters R (x.queue.mapLanes (Producer.sweepLane failed)) :=
  (obeys.sweep ready.wired failed).alters (Queue.mapLanes_outline ..)

theorem Ready.go_alters (ready : x.Ready) (live : Liveness) :
    x.queue.Alters R (x.go live).queue := by
  have still := alters_refl obeys x.queue
  cases stands : x.stage with
  | passing pass next pending =>
    rw [go_passing live stands]
    exact ready.pass_alters obeys pass next pending
  | resetting next =>
    rw [go_resetting live stands]
    exact ready.resetNext_alters obeys next
  | roused wait timely =>
    rw [go_roused live stands]
    cases wait with
    | sweep => exact still
    | _ => exact ⟨rfl, still.lanes⟩
  | dropping pass =>
    rw [go_dropping live stands]
    exact (obeys.resetNotConnected ready.wired).alters (Producer.resetNotConnected_outline _)
  | sweeping =>
    have swept := ready.sweepLane_alters obeys false
    rw [go_sweeping live stands, Scene.sweep]
    split
    · exact ⟨swept.consumers, swept.lanes⟩
    · exact swept
  | settling =>
    rw [go_settling live stands, Scene.settle]
    split
    · exact still
    · split
      · exact still
      · exact ⟨rfl, still.lanes⟩
  | failing =>
    have swept := ready.sweepLane_alters obeys true
    rw [go_failing live stands]
    exact ⟨swept.consumers, swept.lanes⟩
  | _ =>
    rw [Scene.go, stands]
    exact still

theorem Ready.write_alters (ready : x.Ready) (i : Nat) (record : Record) :
    x.queue.Alters R (x.write i record).queue := by
  have written := (obeys.write ready.wired x.producer x.limit i record).alters
    (Producer.write_outline ..)
  rw [Scene.write]
  split
  · rename_i made
    rw [made] at written
    exact written
  · rename_i made
    rw [made] at written
    split
    · exact written
    · exact written

end Producer

include others in
theorem Ready.read_alters (ready : x.Ready) (i : Nat) (point : ReadPoint) :
    x.queue.Alters R (x.read i point).queue := by
  have receives := x.read_receives i point
  have reads : x.queue.Lanewise R (x.read i point).queue := by
    intro j there
    rw [receives.lane j]
    exact others.reads ready.wired _ true point j there
  exact reads.alters (receives.outline.trans
    ((x.ports i).consumer.readStep_steady true point x.queue).outline)

include obeys others in
theorem Turns.alters (turns : x.Turns cue y) (ready : x.Ready) : x.queue.Alters R y.queue := by
  have still := alters_refl obeys x.queue
  cases turns with
  | writes free i record => exact ready.write_alters obeys i record
  | goes live => exact ready.go_alters obeys live
  | @refuses session name q cause refused =>
    have bound := Queue.Lanewise.alters (others.attaches x.queue session name)
      (Queue.bindConsumer_outline ..)
    rw [refused] at bound
    exact bound
  | @attaches session name q i admitted =>
    have bound := Queue.Lanewise.alters (others.attaches x.queue session name)
      (Queue.bindConsumer_outline ..)
    rw [admitted] at bound
    exact bound
  | releases session =>
    exact Queue.Lanewise.alters (others.releases ready.wired session)
      (Queue.releaseConsumer_outline ..)
  | disconnects session =>
    exact Queue.Lanewise.alters (others.disconnects ready.wired session)
      (Queue.disconnect_outline ..)
  | reads present stands => exact ready.read_alters others _ _
  | signals leaving => exact ⟨rfl, still.lanes⟩
  | _ => exact still

include obeys others in
/-- What goes for the pieces of work on a lane goes for every critical section. -/
theorem Ready.perform_alters (ready : x.Ready) (cue : Cue) :
    x.queue.Alters R (x.perform cue).queue :=
  (x.perform_turns cue).alters obeys others ready

end Lanes

section Ports

/-- What a cue makes of the reader of slot `i`. -/
inductive Makes (x : Scene) (i : Nat) (cue : Cue) : Port → Prop where
  /-- The reader is where it was. -/
  | keeps {port : Port} (reading : port.reading = (x.ports i).reading)
      (torn : port.torn = (x.ports i).torn)
      (mismatched : port.mismatched = (x.ports i).mismatched) : Makes x i cue port
  /-- The reader makes a step of a read. -/
  | reads {point : ReadPoint} (present : x.seats i = .present)
      (stands : (x.ports i).StandsAt point) :
      Makes x i cue ((x.ports i).after
        ((x.ports i).consumer.readStep true point x.queue).2.1 point
        ((x.ports i).consumer.readStep true point x.queue).2.2)
  /-- The reader gives up its sleep. -/
  | givesUp {point : ReadPoint} {cause : Error} {live : Liveness}
      (sleeping : (x.ports i).reading = some point) (failed : live.check = .error cause)
      (given : cue = .giveUp i live) :
      Makes x i cue ((x.ports i).ended point (.error cause))

theorem Makes.refl (x : Scene) (i : Nat) (cue : Cue) : x.Makes i cue (x.ports i) :=
  .keeps rfl rfl rfl

theorem withPort_makes {j : Nat} {port : Port} (own : x.Makes j cue port) :
    x.Makes i cue ((x.withPort j port).ports i) := by
  rw [withPort]
  dsimp only
  split
  · rename_i here
    exact here ▸ own
  · exact .refl x i cue

theorem write_makes (x : Scene) (i j : Nat) (record : Record) :
    x.Makes i cue ((x.write j record).ports i) := by
  rw [write]
  split
  · exact .refl x i cue
  · split
    · exact withPort_makes (x := x) (.keeps rfl rfl rfl)
    · exact .refl x i cue

theorem go_ports (x : Scene) (live : Liveness) : (x.go live).ports = x.ports := by
  rw [go]
  split
  · rw [pass]
    split
    · rfl
    · rfl
  · rw [resetNext]
    split
    · rfl
    · rfl
  · rfl
  · rfl
  · rw [sweep]
    split
    · rfl
    · rfl
  · rw [settle]
    split
    · rfl
    · split
      · rfl
      · rfl
  · rfl
  · rfl

theorem read_makes {j : Nat} {point : ReadPoint} (present : x.seats j = .present)
    (stands : (x.ports j).StandsAt point) : x.Makes i cue ((x.read j point).ports i) := by
  have receives := x.read_receives j point
  by_cases here : i = j
  · subst here
    rw [receives.own]
    exact .reads present stands
  · rw [receives.ports i here]
    exact .refl x i cue

theorem Turns.makes (turns : x.Turns cue y) (i : Nat) : x.Makes i cue (y.ports i) := by
  cases turns with
  | writes free j record => exact x.write_makes i j record
  | goes live =>
    rw [go_ports]
    exact .refl x i _
  | attaches admitted absent index => exact withPort_makes (x := x) (.keeps rfl rfl rfl)
  | reads present stands => exact read_makes present stands
  | givesUp sleeping failed => exact withPort_makes (.givesUp sleeping failed rfl)
  | _ => exact .refl x i _

end Ports

/-- What a scene keeps up whose readers wait, until the producer lets go of the queue. -/
structure Steady (x : Scene) : Prop where
  ready : x.Ready
  calm : ∀ i, i < x.queue.consumers → (x.ports i).Calm (x.slot i)

/-- A cue on which nobody gives up inside a long record keeps a reader calm. -/
theorem Makes.calm {port : Port} (makes : x.Makes i cue port) (ready : x.Ready)
    (inside : i < x.queue.consumers) (calm : (x.ports i).Calm (x.slot i))
    (patient : ¬ x.GivesUpInside cue) {after : Slot} (proceeds : (x.slot i).Proceeds after) :
    port.Calm after := by
  have later := calm.move proceeds.isOpen
  cases makes with
  | keeps reading torn mismatched =>
    exact ⟨mismatched.trans later.matched, fun broken => later.apart (torn.symm.trans broken)⟩
  | reads present stands =>
    have tuned := ready.tuned i
    obtain ⟨skip, queue, follows, -, skip', queue', reads, -⟩ :=
      (tuned.hears inside calm.matched).advances calm.matched tuned.indexed inside stands
    exact calm.received stands follows reads proceeds.isOpen _
  | @givesUp point cause live sleeping failed given =>
    subst given
    have outside : point.isInside = false := by
      by_contra within
      have reading : (x.ports i).isInside = point.isInside :=
        Port.StandsAt.isInside (.inr sleeping)
      refine patient ⟨?_, reading.trans (eq_true_of_ne_false within)⟩
      rw [failed]
      exact nofun
    rw [Port.ended_of_other _ _ (Liveness.check_other failed), outside, Bool.or_false]
    exact ⟨later.matched, later.apart⟩

theorem Steady.perform (steady : x.Steady) (waiting : x.Waiting cue)
    (stays : (x.perform cue).stage ≠ .gone) : (x.perform cue).Steady := by
  have alters := steady.ready.perform_alters Lane.proceeds_obeys Lane.proceeds_others cue
  refine ⟨steady.ready.perform waiting.spares stays, fun i inside => ?_⟩
  rw [alters.consumers] at inside
  exact ((x.perform_turns cue).makes i).calm steady.ready inside (steady.calm i inside)
    waiting.patient (alters.lanes i inside)

theorem Steady.run (steady : x.stage ≠ .gone → x.Steady) {cues : List Cue}
    (along : Along Waiting x cues) (stays : (x.run cues).stage ≠ .gone) :
    (x.run cues).Steady := by
  induction cues generalizing x with
  | nil => exact steady stays
  | cons cue rest ih =>
    obtain ⟨waiting, along⟩ := along
    refine ih (fun stays => ?_) along stays
    exact (steady fun gone => stays (perform_gone gone cue)).perform waiting stays

section Start

variable {q : Queue} (wired : q.Wired) (unused : q.IsUnused) (handle : Handle) (limit : Nat)
  (session : Session) (mapping : List ConsumerMapping)
include wired unused

/-- A scene on an unused queue is in order. -/
theorem Ready.start : (start q handle limit session mapping).Ready := by
  have held (i : Nat) : (Scene.start q handle limit session mapping).held i = none :=
    Producer.start_held ..
  refine .blank ProducerStage.isBlank_free wired Array.size_replicate fun i =>
    ⟨rfl, fun bound => absurd rfl bound, fun _ => rfl, fun _ => nofun, fun inside _ => ?_⟩
  rw [held]
  exact ⟨Port.Sound.unused unused inside true _, fun bound => absurd rfl bound,
    fun asleep => absurd rfl asleep⟩

theorem Steady.start : (start q handle limit session mapping).Steady :=
  ⟨.start wired unused handle limit session mapping, fun _ _ => ⟨rfl, nofun⟩⟩

end Start

theorem held_of_pending (pending : x.producer.pending i ≠ 0) : x.held i ≠ none := by
  intro nothing
  have nothing : x.producer.overflow.getD i none = none := nothing
  rw [Producer.pending, nothing] at pending
  exact pending rfl

/-- In a standoff it is a reader that met a mismatch. -/
theorem Ready.mismatched (ready : x.Ready) (standoff : x.Standoff i) :
    (x.ports i).mismatched = true := by
  by_contra unmet
  have matched : (x.ports i).mismatched = false := eq_false_of_ne_true unmet
  obtain ⟨wait, asleep, other⟩ := standoff.waits
  have sleeps : x.Sleeps i := ⟨standoff.present, standoff.reads, standoff.unheard, matched⟩
  obtain ⟨read, active⟩ :=
    ((ready.tuned i).hears standoff.inside matched).resting standoff.reads standoff.unheard
  -- the reader's side leaves only what is held back, and the producer's side settles that
  have kept : x.held i ≠ none := by
    rcases standoff.due with pending | rows | closed
    · exact held_of_pending pending
    · exact absurd read rows
    · exact absurd active closed
  have answered (visited : x.stage.HasVisited i) : False :=
    nomatch standoff.unsignalled.symm.trans
      (ready.answered i standoff.inside visited kept sleeps)
  cases wait with
  | own => exact other rfl
  | drain => exact answered (asleep ▸ trivial)
  | flush => exact answered (asleep ▸ trivial)
  | sweep => exact kept (ready.flushed i standoff.inside (asleep ▸ trivial))

/-- A run keeps a scene in order, as long as no bound reader loses its slot. -/
theorem Kept.run (kept : x.Kept) {cues : List Cue} (along : Along Spares x cues) :
    (x.run cues).Kept := by
  induction cues generalizing x with
  | nil => exact kept
  | cons cue rest ih => exact ih (kept.perform along.1) along.2

theorem Standoff.stays (standoff : x.Standoff i) : x.stage ≠ .gone := by
  obtain ⟨wait, asleep, -⟩ := standoff.waits
  rw [asleep]
  exact ProducerStage.noConfusion

def withdraws : Cue → Bool
  | .release _ | .disconnect _ => true
  | _ => false

theorem spares_of_stays (x : Scene) (stays : withdraws cue = false) : x.Spares cue := by
  cases cue with
  | release session => cases stays
  | disconnect session => cases stays
  | _ => trivial

theorem along_spares {cues : List Cue} (stay : ∀ cue ∈ cues, withdraws cue = false) :
    Along Spares x cues := by
  induction cues generalizing x with
  | nil => trivial
  | cons cue rest ih =>
    obtain ⟨here, later⟩ := List.forall_mem_cons.mp stay
    exact ⟨spares_of_stays x here, ih later⟩

/-- Whatever readers give up, only one that was told of a mismatch is ever met in a standoff. -/
theorem mismatched_of_standoff {q : Queue} (wired : q.Wired) (unused : q.IsUnused) (handle : Handle)
    (limit : Nat) (session : Session) (mapping : List ConsumerMapping) {cues : List Cue}
    (along : Along Spares (start q handle limit session mapping) cues)
    (standoff : ((start q handle limit session mapping).run cues).Standoff i) :
    (((start q handle limit session mapping).run cues).ports i).mismatched = true := by
  have kept : (start q handle limit session mapping).Kept :=
    fun _ => .start wired unused handle limit session mapping
  exact (kept.run along standoff.stays).mismatched standoff

/-- After every run of critical sections, which are those of the program's functions: a producer in
draining or unbinding and a reader sleep on each other only if the reader was told of a mismatch;
and that never happens as long as readers wait for the rest of a long record. -/
theorem no_standoff {q : Queue} (wired : q.Wired) (unused : q.IsUnused) (handle : Handle)
    (limit : Nat) (session : Session) (mapping : List ConsumerMapping) (cues : List Cue) :
    let x := (start q handle limit session mapping).run cues
    x.CarriesOut ∧
      (Along Spares (start q handle limit session mapping) cues →
        ∀ i, x.Standoff i → (x.ports i).mismatched = true) ∧
      (Along Waiting (start q handle limit session mapping) cues → ∀ i, ¬ x.Standoff i) := by
  intro x
  refine ⟨x.carriesOut, ?_, ?_⟩
  · intro along i standoff
    exact mismatched_of_standoff wired unused handle limit session mapping along standoff
  · intro waiting i standoff
    have steady := Steady.run (fun _ => .start wired unused handle limit session mapping) waiting
      standoff.stays
    exact nomatch (steady.calm i standoff.inside).matched.symm.trans
      (steady.ready.mismatched standoff)

/-- Somebody binds as a second producer beside one that is named zero, and sends the beginning of a
long record. The reader has taken that when the first producer, which holds nothing for it, ends its
data, and goes to sleep on what it holds for another slot. -/
def besideNameless : List Move :=
  [.acquire Commons.undisturbed ⟨0, 0⟩ "rows" 2,
    .bind Commons.undisturbed ⟨0, 0⟩ "rows" [1, 2] [0, 1, 2] 64,
    .bind Commons.undisturbed ⟨102, 3⟩ "rows" [1, 2] [0, 1, 2] 64,
    .bind Commons.undisturbed ⟨101, 1⟩ "rows" [1, 2] [0, 1, 2] 64, .consume 0 (.read true),
    .produce 1 (.call (.write 1 [1, 2])), .produce 1 (.call (.write 0 [1, 2])),
    .produce 1 (.call .finish), .consume 0 .resume, .produce 0 (.call (.write 1 [3, 4])),
    .produce 0 (.unbind false), .produce 0 (.close Commons.undisturbed), .consume 0 .resume,
    .produce 0 (.wake true), .produce 0 (.close Commons.undisturbed),
    .produce 0 (.close Commons.undisturbed)]

/-- A queue of two slots, whose buffers take eight bytes of a record at a time. -/
def pairQueue : Queue :=
  let cells := Array.replicate 12 0
  let slots := #[{ Slot.fresh cells with node := 1 }, { Slot.fresh cells with node := 2 }]
  ⟨{ Entry.unused with slots }, .free 2⟩

def pairScene : Scene := start pairQueue ⟨0, 0, "q"⟩ 64 default []

/-- A record whose bytes pass for lengths. -/
def deceptive : Record :=
  [0, 0, 0, 0, 100, 0, 0, 0, 0, 0, 0, 0, 92, 0, 0, 0, 0, 0, 0, 0, 84, 0, 0, 0]

/-- The producer wakes up in a drain, passes over both slots, and goes back to sleep. -/
def drainAgain : List Cue :=
  [.wake true, .go Commons.undisturbed, .go Commons.undisturbed, .go Commons.undisturbed,
    .go Commons.undisturbed]

/-- A reader gives up inside a long record, and reads on: it takes the rest for a record, is told of
a mismatch, takes bytes of the record for an empty row, which an assertion stops, and others for the
length of a record that is never to be completed. The producer drains two slots meanwhile, and
nobody reads from the other one. -/
def torn : List Cue :=
  [.attach ⟨7, 1⟩ "q", .write 0 deceptive, .write 1 deceptive, .drain, .go Commons.undisturbed,
    .go Commons.undisturbed, .go Commons.undisturbed, .read 0, .giveUp 0 ⟨true, 1, true⟩] ++
  drainAgain ++ [.read 0] ++ drainAgain ++ [.resume 0, .read 0, .read 0, .signal 0] ++ drainAgain ++
  [.resume 0] ++ drainAgain ++ [.resume 0] ++ drainAgain ++ [.resume 0] ++ drainAgain

/-- A producer sleeps on its latch, and a reader on its own beside the end of its data, neither
signalled: next to a session named zero, and where a reader reads on that gave up inside a long
record. -/
theorem standoff_beside_nameless_or_torn :
    let x := (Commons.start Commons.wider 1).run besideNameless
    (x.producers.map (fun p => (p.stand, (x.memory.queue p.producer.handle).sync.producer.isSet)) =
        [(.asleep false .flush, false), (.bound, false)] ∧
      x.consumers.map (fun seat =>
        (seat.reading, (x.laneOf seat).latch.isSet, (x.laneOf seat).slot.status)) =
        [(some (.chunk ⟨2, [1]⟩), false, .eof)]) ∧
      Along Spares pairScene torn ∧ (pairScene.run torn).Standoff 0 := by
  refine ⟨by decide +kernel, along_spares (by decide), ?_⟩
  exact ⟨by decide +kernel, ⟨.drain, by decide +kernel, nofun⟩, by decide +kernel, by decide +kernel,
    by decide +kernel, by decide +kernel, .inr (.inr (by decide +kernel))⟩

/-- A queue of one slot, whose buffer takes one byte of a record at a time. -/
def narrowQueue : Queue :=
  ⟨{ Entry.unused with slots := #[{ Slot.fresh #[0, 0, 0, 0, 0] with node := 1 }] }, .free 1⟩

theorem narrowQueue_isUnused : narrowQueue.IsUnused := by
  intro i inside
  obtain rfl : i = 0 := Nat.lt_one_iff.mp inside
  exact ⟨rfl, #[0, 0, 0, 0, 0], by decide, rfl⟩

def narrowScene : Scene := start narrowQueue ⟨0, 0, "q"⟩ 64 default []

/-- A reader takes the first byte of a record and asks for the next; the producer, which drains,
puts it into the buffer and goes to sleep again. -/
def halfway : List Cue :=
  [.attach ⟨7, 1⟩ "q", .write 0 [1, 2, 3], .drain, .go Commons.undisturbed,
    .go Commons.undisturbed, .read 0, .wake true, .go Commons.undisturbed,
    .go Commons.undisturbed, .go Commons.undisturbed]

theorem no_standoff_halfway :
    ((narrowScene.run halfway).stage = .asleep .drain ∧
      (narrowScene.run halfway).queue.sync.producer.isSet = false ∧
      (narrowScene.run halfway).producer.pending 0 ≠ 0 ∧
      ((narrowScene.run halfway).ports 0).reading ≠ none) ∧
    ¬ (narrowScene.run halfway).Standoff 0 := by
  refine ⟨by decide +kernel, ?_⟩
  refine (no_standoff (q := narrowQueue) (Nat.le_refl 1) narrowQueue_isUnused _ _ _ _ _).2.2 ?_ 0
  exact ⟨⟨trivial, id⟩, ⟨trivial, id⟩, ⟨trivial, id⟩, ⟨trivial, id⟩, ⟨trivial, id⟩, ⟨trivial, id⟩,
    ⟨trivial, id⟩, ⟨trivial, id⟩, ⟨trivial, id⟩, ⟨trivial, id⟩, trivial⟩

end Scene

end RecordExchange
