import RecordExchange.Proofs.Commons.Deserted
import RecordExchange.Proofs.Commons.Finishing
import RecordExchange.Proofs.Host.Readers

set_option autoImplicit false

/-!
Unbinding on a site where nobody is left to read.

Readers that have ended do nothing while somebody sleeps, so a wait ends by a signal that is there
already or when its time has passed. What a producer does to unbind it then does by itself, and with
no reader at any of its slots it comes to its end after a handful of moves.
-/

namespace RecordExchange

open Commons

namespace Site

variable {s : Site} {v : View}

def Quiet (s : Site) : Prop := ∀ reader ∈ s.readers, reader.2.isDone = true

theorem round_quiet (h : Host) {readers : List (String × Reader)}
    (quiet : ∀ reader ∈ readers, reader.2.isDone = true) : round h readers = (h, readers, false) := by
  induction readers with
  | nil => rfl
  | cons reader rest ih =>
    obtain ⟨ended, others⟩ := List.forall_mem_cons.mp quiet
    have idle : reader.2.step h = (h, reader.2, false) := by
      rw [Reader.step, Option.isNone_iff_eq_none.mp ended]
    simp only [round, idle, ih others, Bool.or_self]

theorem Quiet.settle (quiet : s.Quiet) : s.settle = s := by
  rw [Site.settle, settleFor, round_quiet s.host quiet]

/-- A wait that nobody disturbs ends by a signal that was there before, or in time. -/
theorem Quiet.sleep (quiet : s.Quiet) (alive : (s.host.liveness v).check = .ok ())
    (latch : Host → Latch) (timeoutMs : Nat) :
    s.sleep v latch (some timeoutMs) =
      (s, if timeoutMs ≠ 0 ∧ (latch s.host).isSet = true then .woken else .timedOut) := by
  rw [Site.sleep, Latch.beginWait, alive]
  by_cases instant : timeoutMs = 0
  · simp only [instant, ↓reduceIte, ne_eq, not_true_eq_false, false_and]
  · have patient : ¬ some timeoutMs = some 0 := fun same => instant (Option.some.inj same)
    by_cases signalled : (latch s.host).isSet = true
    · simp only [patient, signalled, instant, ↓reduceIte, ne_eq, not_false_eq_true, and_self]
    · simp only [patient, signalled, ↓reduceIte, and_false, quiet.settle, Latch.keepWaiting, alive,
        Option.isSome_some, Bool.false_eq_true]

/-- So a producer that waits while it unbinds goes on as one that is alone. -/
theorem Quiet.closeFor_waits {p d : Producer} {failed : Bool} {point : ClosePoint} {u : Segment}
    {pass : ClosePass} (quiet : s.Quiet) (inside : v.segment < s.host.segments.size)
    (alive : (s.host.liveness v).check = .ok ())
    (step : p.closeStep (s.host.segment v) failed (s.host.liveness v) point = (d, u, .waits pass))
    (steps : Nat) :
    s.closeFor v p failed point (steps + 1) =
      closeFor ⟨s.host.setSegment v u, s.readers⟩ v d failed
        (pass.resumes v.config.connectTimeoutMs (u.queue d.handle).sync.producer) steps := by
  have still : Quiet ⟨s.host.setSegment v u, s.readers⟩ := quiet
  have latch : producerLatch v d.handle (s.host.setSegment v u) =
      (u.queue d.handle).sync.producer := by
    rw [producerLatch, Host.queue, Host.segment_setSegment inside]
  have slept := still.sleep alive (producerLatch v d.handle) v.config.connectTimeoutMs
  rw [latch] at slept
  rw [closeFor, step]
  dsimp only
  rw [slept, ClosePass.resumes]
  by_cases signalled :
      v.config.connectTimeoutMs ≠ 0 ∧ (u.queue d.handle).sync.producer.isSet = true
  · rw [if_pos signalled, if_pos signalled]
  · rw [if_neg signalled, if_neg signalled]
    dsimp only
    rw [still.settle]

end Site

/-- A producer that waited goes on as one that was woken up in time or was not. -/
theorem ClosePass.resumes_eq (pass : ClosePass) (timeoutMs : Nat) (latch : Latch) :
    ∃ timely : Bool, pass.resumes timeoutMs latch =
      if timely then .woken pass else .timedOut pass := by
  refine ⟨decide (timeoutMs ≠ 0 ∧ latch.isSet = true), ?_⟩
  simp only [resumes, decide_eq_true_eq]

section Alone

variable {v : View} {x : Commons} {k n limit turn : Nat} {t : Segment} {seat : ProducerSeat}

/-- Unbinding came to its end with success, after so many moves of the producer in seat `k` and of
nobody else. -/
structure Site.EndsAlone (v : View) (x : Commons) (k n : Nat) (t : Segment) (seat : ProducerSeat)
    (ended : Site × Option (Except Error Unit)) : Prop where
  result : ended.2 = some (.ok ())
  moves : ∃ own : List ProducerMove, own.length = n ∧
    ended.1.host.Shows v (x.run (own.map (.produce k))) ∧
    (x.run (own.map (.produce k))).memory = t ∧
    (x.run (own.map (.produce k))).producers[k]? = some seat

theorem Site.EndsAlone.step {ended : Site × Option (Except Error Unit)} {move : ProducerMove}
    (later : EndsAlone v (x.produce k move) k n t seat ended) :
    EndsAlone v x k (n + 1) t seat ended := by
  obtain ⟨result, own, length, final⟩ := later
  exact ⟨result, move :: own, congrArg (· + 1) length, final⟩

/-- What an unbinding producer can do by itself it does on a site where nobody else does anything.
-/
theorem Producer.ClosesAlone.closeFor {live : Liveness} {p after : Producer} {s : Segment}
    {point : ClosePoint} (closes : ClosesAlone v.config.connectTimeoutMs live p s point n after t)
    (checked : live.check = .ok ()) {site : Site} {steps : Nat} (memory : x.memory = s)
    (here : x.producers[k]? = some ⟨p, limit, .closing false point, turn⟩)
    (shows : site.host.Shows v x) (quiet : site.Quiet) (conditions : site.host.liveness v = live)
    (enough : n ≤ steps) :
    Site.EndsAlone v x k n t ⟨after, limit, .gone, turn⟩
      (site.closeFor v p false point steps) := by
  induction closes generalizing x site steps with
  | ends step =>
    obtain ⟨steps, rfl⟩ : ∃ m, steps = m + 1 := ⟨steps - 1, by omega⟩
    subst memory
    obtain ⟨put, there⟩ := produce_close here step
    have shown := shows.put rfl put.symm (perform_geometry x (.produce k (.close live)))
    rw [Site.closeFor, shows.memory, conditions, step]
    exact ⟨rfl, [.close live], rfl, shown, put, there⟩
  | goesOn step rest ih =>
    obtain ⟨steps, rfl⟩ : ∃ m, steps = m + 1 := ⟨steps - 1, by omega⟩
    subst memory
    obtain ⟨put, there⟩ := produce_close here step
    have shown := shows.put rfl put.symm (perform_geometry x (.produce k (.close live)))
    rw [Site.closeFor, shows.memory, conditions, step]
    exact (@ih _ ⟨site.host.setSegment v _, site.readers⟩ _ put there shown quiet conditions
      (Nat.le_of_succ_le_succ enough)).step
  | @waits p s point d u pass n after t step rest ih =>
    obtain ⟨steps, rfl⟩ : ∃ m, steps = m + 1 := ⟨steps - 1, by omega⟩
    subst memory
    obtain ⟨put, there⟩ := produce_close here step
    have shown := shows.put rfl put.symm (perform_geometry x (.produce k (.close live)))
    have waits : p.closeStep (site.host.segment v) false (site.host.liveness v) point =
        (d, u, .waits pass) := by
      rw [shows.memory, conditions, step]
    rw [quiet.closeFor_waits shows.inside (conditions ▸ checked) waits]
    obtain ⟨timely, next⟩ :=
      pass.resumes_eq v.config.connectTimeoutMs (u.queue d.handle).sync.producer
    rw [next] at ih ⊢
    have still : ((x.produce k (.close live)).produce k (.wake timely)).memory = u := by
      rw [produce_eq there]
      exact put
    have woken := shown.congr (still.trans put.symm)
      (perform_geometry (x.produce k (.close live)) (.produce k (.wake timely)))
    exact (@ih _ ⟨site.host.setSegment v u, site.readers⟩ _ still (produce_seat there (.wake timely))
      woken quiet conditions (Nat.le_of_succ_le (Nat.le_of_succ_le_succ enough))).step.step

end Alone

namespace Site

/-- In every state that a proper run leads to, a producer that is bound to a queue that is still
there, each slot of which is done or free, unbinds with success while nobody else does anything,
whatever is held back and however its latch is set. It makes at most ten moves to do so, and leaves
every slot done, those that were not done before empty, and nothing held back. -/
theorem unbind_ends_readerless (c : Config) (creator : ProcessId) (moves : List Move)
    (proper : Along Proper (start c creator) moves) (k : Nat) (seat : ProducerSeat)
    (bound : ((start c creator).run moves).producers[k]? = some seat)
    (standing : seat.stand = .bound)
    (holding : ((start c creator).run moves).AtLiveQueue (.produce k (.unbind false)))
    (left : ((start c creator).run moves).memory.Readerless seat.producer.handle)
    (site : Site) (v : View) (shows : site.host.Shows v ((start c creator).run moves))
    (quiet : site.Quiet) (alive : (site.host.liveness v).check = .ok ()) :
    let x := (start c creator).run moves
    ∃ (w : Site) (own : List ProducerMove),
      site.unbind v seat.producer false = (w, some (.ok ())) ∧ own.length ≤ 10 ∧
      let y := x.run (own.map (.produce k))
      let before := x.memory.queue seat.producer.handle
      let after := y.memory.queue seat.producer.handle
      w.host.Shows v y ∧
      (∃ gone, y.producers[k]? = some gone ∧ gone.isOpen = false ∧
        ∀ i, gone.producer.held i = none) ∧
      after.consumers = before.consumers ∧
      ∀ i, i < before.consumers → (after.lane i).slot.status = .done ∧
        ((before.lane i).slot.status ≠ .done → (after.lane i).slot.ring.count = .empty) := by
  intro x
  have founded : x.Founded := (Founded.start c creator).run moves
  have asks : x.Asks := asks_run (.start c creator) (.start c creator) (.start c creator) moves proper
  have tended : x.Tended :=
    Tended.run (fun _ member => absurd member List.not_mem_nil) (.start c creator) moves
  obtain ⟨-, current⟩ := holding seat bound
  obtain ⟨p, limit, stand, turn⟩ := seat
  cases standing
  have deserted : x.memory.Deserted p.handle := asks.deserted founded bound left
  have still : (x.produce k (.unbind false)).memory = x.memory := by
    rw [produce_eq bound]
    rfl
  have there : (x.produce k (.unbind false)).producers[k]? =
      some ⟨p, limit, .closing false (.run .flush), turn⟩ := produce_seat bound (.unbind false)
  obtain ⟨n, after, t, few, closes, settled⟩ :=
    Producer.closes_flush v.config.connectTimeoutMs alive deserted
  have patient : n ≤ patience := Nat.le_trans few (by decide)
  have shown := shows.congr still (perform_geometry x (.produce k (.unbind false)))
  have ends : EndsAlone v x k (n + 1) t ⟨after, limit, .gone, turn⟩ (site.unbind v p false) :=
    (closes.closeFor alive still there shown quiet rfl patient).step
  rcases unbound : site.unbind v p false with ⟨w, ended⟩
  rw [unbound] at ends
  obtain ⟨result, own, length, shows, memory, gone⟩ := ends
  obtain ⟨works, turns, stays⟩ := run_own Lane.empties_obeys founded bound own
  obtain ⟨handle, -⟩ := Prod.mk.inj (stays _ gone)
  have tidy := (tended.run founded (own.map (.produce k)) _ (List.mem_of_getElem? gone)).2 <| by
    change (x.run _).turn after.handle.entry = turn
    rw [turns, handle]
    exact current.symm
  refine ⟨w, own, ?_, ?_, shows, ⟨_, gone, rfl, tidy.emptied rfl⟩, works.consumers,
    fun i inside => ?_⟩
  · exact congrArg (w, ·) result
  · omega
  · have done := settled.done rfl i
    rw [← memory, works.consumers] at done
    refine ⟨done inside, fun undone => ?_⟩
    exact ((works.own i inside).emptied (done inside)).resolve_left undone

/-- Nobody attached to the slot, in which the first chunk of a record waits. -/
def neverRead : List Move :=
  [.acquire undisturbed ⟨100, 0⟩ "rows" 1, .bind undisturbed ⟨100, 0⟩ "rows" [1] [0, 1] 64,
    .produce 0 (.call (.write 0 [7, 8])), .produce 0 (.call .finish)]

/-- A site behind which are the commons and where nobody runs but the segment's creator. -/
def alone (x : Commons) : Site := ⟨⟨[], #[x.memory], ⟨[], []⟩⟩, []⟩

def soleView (x : Commons) : View := ⟨0, narrow, x.geometry, 1, false, false⟩

theorem alone_shows (x : Commons) : (alone x).host.Shows (soleView x) x :=
  ⟨Nat.one_pos, rfl, rfl⟩

theorem alone_quiet (x : Commons) : (alone x).Quiet := nofun

theorem alone_alive (x : Commons) : ((alone x).host.liveness (soleView x)).check = .ok () := rfl

/-- The rest of the record is dropped, and the chunk with it. -/
theorem unbind_ends_readerless_neverRead :
    let x := (start narrow 1).run neverRead
    Along Proper (start narrow 1) neverRead ∧ x.AtLiveQueue (.produce 0 (.unbind false)) ∧
      ∃ (seat : ProducerSeat) (w : Site) (own : List ProducerMove),
        x.producers[0]? = some seat ∧ seat.stand = .bound ∧ seat.producer.pending 0 = 1 ∧
        x.memory.Readerless seat.producer.handle ∧
        (alone x).unbind (soleView x) seat.producer false = (w, some (.ok ())) ∧
        (((x.run (own.map (.produce 0))).memory.queue seat.producer.handle).lane 0).slot.ring.count =
          .empty := by
  intro x
  have proper : Along Proper (start narrow 1) neverRead := by decide +kernel
  have holding : ((start narrow 1).run neverRead).AtLiveQueue (.produce 0 (.unbind false)) := by
    decide +kernel
  have stands : (((start narrow 1).run neverRead).producers[0]?).map (fun seat =>
      let s := ((start narrow 1).run neverRead).memory
      let q := s.queue seat.producer.handle
      (seat.stand, seat.producer.pending 0, decide (s.Readerless seat.producer.handle), q.consumers,
        (q.lane 0).slot.status)) = some (.bound, 1, true, 1, .active) := by
    decide +kernel
  obtain ⟨seat, bound, found⟩ := Option.map_eq_some_iff.mp stands
  simp only [Prod.mk.injEq, decide_eq_true_eq] at found
  obtain ⟨standing, pending, left, one, active⟩ := found
  obtain ⟨w, own, unbound, -, -, -, -, slots⟩ :=
    unbind_ends_readerless narrow 1 neverRead proper 0 seat bound standing holding left (alone x)
      (soleView x) (alone_shows x) (alone_quiet x) (alone_alive x)
  have undone : ((x.memory.queue seat.producer.handle).lane 0).slot.status ≠ .done := by
    rw [active]
    exact SlotStatus.noConfusion
  have inside : 0 < (x.memory.queue seat.producer.handle).consumers := one ▸ Nat.one_pos
  exact ⟨proper, holding, seat, w, own, bound, standing, pending, left, unbound,
    (slots 0 inside).2 undone⟩

/-- In every state that a run leads to which `allowed` admits, a producer that is bound to a queue
that is still there, each slot of which is done or free, unbinds with success while nobody else does
anything. -/
def UnbindsReaderless (allowed : Commons → Move → Prop) : Prop :=
  ∀ (c : Config) (creator : ProcessId) (moves : List Move), Along allowed (start c creator) moves →
    let x := (start c creator).run moves
    ∀ k seat, x.producers[k]? = some seat → seat.stand = .bound →
      x.AtLiveQueue (.produce k (.unbind false)) → x.memory.Readerless seat.producer.handle →
        ∀ (site : Site) (v : View), site.host.Shows v x → site.Quiet →
          (site.host.liveness v).check = .ok () →
            (site.unbind v seat.producer false).2 = some (.ok ())

theorem not_unbindsReaderless {allowed : Commons → Move → Prop} (moves : List Move) (cause : Error)
    (along : Along allowed (start narrow 1) moves)
    (holding : ((start narrow 1).run moves).AtLiveQueue (.produce 1 (.unbind false)))
    (stands : (((start narrow 1).run moves).producers[1]?).map (fun seat =>
      let x := (start narrow 1).run moves
      (seat.stand, decide (x.memory.Readerless seat.producer.handle),
        ((alone x).unbind (soleView x) seat.producer false).2)) =
      some (.bound, true, some (.error cause))) : ¬ UnbindsReaderless allowed := by
  intro unbinds
  obtain ⟨seat, bound, found⟩ := Option.map_eq_some_iff.mp stands
  simp only [Prod.mk.injEq, decide_eq_true_eq] at found
  obtain ⟨standing, left, failed⟩ := found
  have unbound := unbinds narrow 1 moves along 1 seat bound standing holding left _ _
    (alone_shows _) (alone_quiet _) (alone_alive _)
  rw [failed] at unbound
  cases unbound

/-- With sessions named zero, or with roles played at queues that are gone, unbinding may fail
though nobody is left to read. -/
theorem unbind_fails_beside_others :
    ¬ UnbindsReaderless AtLiveQueue ∧ ¬ UnbindsReaderless fun _ => Named := by
  constructor
  · exact not_unbindsReaderless (besideNameless ⟨0, 1⟩) (.longRecordMismatch 2 2)
      (by decide +kernel) (by decide +kernel) (by decide +kernel)
  · exact not_unbindsReaderless besideOutlived (.longRecordMismatch 2 3)
      (by decide +kernel) (by decide +kernel) (by decide +kernel)

end Site

end RecordExchange
