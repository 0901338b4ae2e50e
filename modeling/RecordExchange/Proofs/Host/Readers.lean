import RecordExchange.Host.Site
import RecordExchange.Proofs.Commons.Actions

set_option autoImplicit false

/-!
The readers of a site among all parties.

A site moves its readers in an order of its own: in every round each of them that has a reason to
goes on as far as it gets. What they do to the memory behind a view they do as consumers of the
commons, so that wherever a site gets by itself, the commons get by moves of the readers' seats.
-/

namespace RecordExchange

namespace Host

variable {h t u : Host} {v : View}

theorem segment_setSegment (inside : v.segment < h.segments.size) (s : Segment) :
    (h.setSegment v s).segment v = s := by
  simp only [segment, setSegment, Array.getD_eq_getD_getElem?,
    Array.getElem?_setIfInBounds_self_of_lt inside, Option.getD_some]

/-- From `h` to `t` no memory changed but that behind one view. -/
structure Spares (h t : Host) (v : View) : Prop where
  size : t.segments.size = h.segments.size
  others : ∀ w : View, w.segment ≠ v.segment → t.segment w = h.segment w

theorem Spares.refl (h : Host) (v : View) : h.Spares h v := ⟨rfl, fun _ _ => rfl⟩

theorem Spares.trans (first : h.Spares t v) (second : t.Spares u v) : h.Spares u v :=
  ⟨second.size.trans first.size, fun w other => (second.others w other).trans (first.others w other)⟩

theorem setSegment_spares (h : Host) (v : View) (s : Segment) : h.Spares (h.setSegment v s) v := by
  refine ⟨Array.size_setIfInBounds, fun w other => ?_⟩
  simp only [segment, setSegment, Array.getD_eq_getD_getElem?,
    Array.getElem?_setIfInBounds_ne (Ne.symm other)]

end Host

namespace Reader

variable {v : View}

theorem finish_spares (r : Reader) (h : Host) (c : Consumer) (news : ReaderNews) :
    h.Spares (r.finish h c news).1 r.view ∧ (r.finish h c news).2.view = r.view :=
  ⟨h.setSegment_spares r.view _, rfl⟩

theorem work_spares (r : Reader) (h : Host) (c : Consumer) (point : ReadPoint) (reads : Nat) :
    h.Spares (r.work h c point reads).1 r.view ∧ (r.work h c point reads).2.view = r.view := by
  induction reads generalizing r h c point with
  | zero => exact ⟨.refl h _, rfl⟩
  | succ reads ih =>
    rw [work]
    split
    · exact r.finish_spares h c _
    · rcases c.readStep true point (h.queue r.view c.handle) with ⟨q, c, result | next⟩
      · have put : h.Spares (h.setQueue r.view c.handle q) r.view := h.setSegment_spares ..
        match result with
        | .ok (.record payload) =>
          obtain ⟨later, view⟩ :=
            ih { r.tell (.record payload) with left := r.left.map (· - 1) } _ c .row
          exact ⟨put.trans later, view⟩
        | .ok .eof => exact (r.finish_spares _ c _).imp put.trans id
        | .ok .wouldBlock => exact ⟨put, rfl⟩
        | .error cause => exact (r.finish_spares _ c _).imp put.trans id
      · have put : h.Spares (h.setQueue r.view c.handle q) r.view := h.setSegment_spares ..
        dsimp only
        split
        · exact (r.finish_spares _ c _).imp put.trans id
        · exact ⟨put, rfl⟩

theorem step_spares (r : Reader) (h : Host) :
    h.Spares (r.step h).1 r.view ∧ (r.step h).2.1.view = r.view := by
  rw [step]
  split
  · exact ⟨.refl h _, rfl⟩
  · split
    · exact r.work_spares ..
    · exact r.finish_spares ..
    · exact ⟨.refl h _, rfl⟩

end Reader

/-- A seat in which a read of a consumer stands at some point: it sleeps there, or is to begin. -/
structure ConsumerSeat.IsAt (seat : ConsumerSeat) (c : Consumer) (point : ReadPoint) : Prop where
  opened : seat.isOpen = true
  consumer : seat.consumer = c
  reading : seat.reading = some point ∨ seat.reading = none ∧ point = .row

def Move.OfReaders (ks : List Nat) : Move → Prop
  | .consume k _ => k ∈ ks
  | _ => False

namespace ConsumerSeat

variable {seat : ConsumerSeat} {c : Consumer} {point : ReadPoint}

theorem IsAt.sleeps (stands : seat.IsAt c point) (next : Consumer) (asleep : ReadPoint) :
    (seat.after next (.sleeps asleep)).IsAt next asleep :=
  ⟨stands.opened, rfl, .inl rfl⟩

theorem IsAt.ends (stands : seat.IsAt c point) (next : Consumer)
    (result : Except Error ReadOutcome) : (seat.after next (.ended result)).IsAt next .row :=
  ⟨stands.opened, rfl, .inr ⟨rfl, rfl⟩⟩

theorem IsAt.goesOn (stands : seat.IsAt c point) :
    ∃ move, move ≠ ConsumerMove.drop ∧ ∀ q, seat.step q move = seat.read true point q := by
  rcases stands.reading with asleep | ⟨awake, rfl⟩
  · refine ⟨.resume, ConsumerMove.noConfusion, fun q => ?_⟩
    simp only [step, stands.opened, asleep, ↓reduceIte]
  · refine ⟨.read true, ConsumerMove.noConfusion, fun q => ?_⟩
    simp only [step, stands.opened, awake, ↓reduceIte]

end ConsumerSeat

namespace Commons

variable {x y z : Commons} {P Q : Move → Prop} {ks : List Nat} {k : Nat}

/-- Moves of which each is as `P` says lead from `x` to `y`. -/
def Leads (P : Move → Prop) (x y : Commons) : Prop :=
  ∃ moves : List Move, (∀ move ∈ moves, P move) ∧ x.run moves = y

theorem Leads.refl (P : Move → Prop) (x : Commons) : x.Leads P x := ⟨[], nofun, rfl⟩

theorem Leads.trans (first : x.Leads P y) (second : y.Leads P z) : x.Leads P z := by
  obtain ⟨before, all, rfl⟩ := first
  obtain ⟨after, more, rfl⟩ := second
  exact ⟨before ++ after, List.forall_mem_append.mpr ⟨all, more⟩, run_append ..⟩

theorem Leads.mono (leads : x.Leads P y) (more : ∀ move, P move → Q move) : x.Leads Q y := by
  obtain ⟨moves, all, rfl⟩ := leads
  exact ⟨moves, fun move member => more move (all move member), rfl⟩

theorem leads_perform {move : Move} (allowed : P move) : x.Leads P (x.perform move) :=
  ⟨[move], List.forall_mem_singleton.mpr allowed, rfl⟩

theorem Leads.invariant {I : Commons → Prop} (leads : x.Leads P y) (start : I x)
    (kept : ∀ z move, P move → I z → I (z.perform move)) : I y := by
  obtain ⟨moves, all, rfl⟩ := leads
  induction moves generalizing x with
  | nil => exact start
  | cons move rest ih =>
    obtain ⟨first, others⟩ := List.forall_mem_cons.mp all
    exact ih (kept x move first start) others

/-- From `x` to `y` nothing changed but the memory and some consumers' seats. -/
structure Apart (ks : List Nat) (x y : Commons) : Prop where
  consumers : ∀ k, k ∉ ks → y.consumers[k]? = x.consumers[k]?
  producers : y.producers = x.producers
  claims : y.claims = x.claims
  geometry : y.geometry = x.geometry

section Consume

variable {seat : ConsumerSeat}

theorem consume_eq (here : x.consumers[k]? = some seat) (move : ConsumerMove) :
    x.consume k move =
      { x with
          memory := x.memory.setQueue seat.consumer.handle
            (seat.step (x.memory.queue seat.consumer.handle) move).2
          consumers := x.consumers.set k
            (seat.step (x.memory.queue seat.consumer.handle) move).1 } := by
  simp only [consume, here]

theorem consume_apart (x : Commons) (k : Nat) (move : ConsumerMove) :
    x.Apart [k] (x.consume k move) := by
  cases here : x.consumers[k]? with
  | none =>
    rw [consume, here]
    exact ⟨fun _ _ => rfl, rfl, rfl, rfl⟩
  | some seat =>
    rw [consume_eq here]
    refine ⟨fun n other => ?_, rfl, rfl, rfl⟩
    rw [List.mem_singleton] at other
    exact List.getElem?_set_ne (Ne.symm other)

end Consume

theorem Leads.apart (leads : x.Leads (Move.OfReaders ks) y) : x.Apart ks y := by
  refine leads.invariant ⟨fun _ _ => rfl, rfl, rfl, rfl⟩ fun z move own kept => ?_
  cases move with
  | consume k move =>
    have after := consume_apart z k move
    refine ⟨fun n other => ?_, after.producers.trans kept.producers,
      after.claims.trans kept.claims, after.geometry.trans kept.geometry⟩
    have differs : n ∉ [k] := fun same => other (List.mem_singleton.mp same ▸ own)
    exact (after.consumers n differs).trans (kept.consumers n other)
  | _ => cases own

section Reading

variable {seat : ConsumerSeat} {c : Consumer} {point : ReadPoint}

theorem consume_goesOn (here : x.consumers[k]? = some seat) (stands : seat.IsAt c point) :
    ∃ move, move ≠ ConsumerMove.drop ∧
      (x.consume k move).memory = x.memory.setQueue c.handle
        (c.readStep true point (x.memory.queue c.handle)).1 ∧
      (x.consume k move).consumers[k]? =
        some (seat.after (c.readStep true point (x.memory.queue c.handle)).2.1
          (c.readStep true point (x.memory.queue c.handle)).2.2) := by
  obtain ⟨move, own, moved⟩ := stands.goesOn
  refine ⟨move, own, ?_, ?_⟩
  · rw [consume_eq here, moved, ← stands.consumer]
    rfl
  · have inside := (List.getElem?_eq_some_iff.mp here).1
    rw [consume_eq here, moved, ← stands.consumer]
    exact List.getElem?_set_self inside

theorem consume_awakes (here : x.consumers[k]? = some seat) (stands : seat.IsAt c point)
    {live : Liveness} {cause : Error} (stops : live.check = .error cause) :
    (x.consume k (.abandon live)).memory = x.memory ∧
      (x.consume k (.abandon live)).consumers[k]? = some ⟨c, none, true, seat.turn⟩ := by
  have awake : seat.step (x.memory.queue seat.consumer.handle) (.abandon live) =
      (⟨c, none, true, seat.turn⟩, x.memory.queue seat.consumer.handle) := by
    obtain ⟨d, reading, isOpen, turn⟩ := seat
    cases stands.opened
    cases stands.consumer
    cases reading with
    | none => rfl
    | some point => simp only [ConsumerSeat.step, stops, ↓reduceIte]
  have inside := (List.getElem?_eq_some_iff.mp here).1
  rw [consume_eq here, awake]
  exact ⟨x.memory.setQueue_queue _, List.getElem?_set_self inside⟩

theorem consume_drop {turn : Nat} (here : x.consumers[k]? = some ⟨c, none, true, turn⟩) :
    (x.consume k .drop).memory =
      x.memory.setQueue c.handle (c.drop (x.memory.queue c.handle)) := by
  rw [consume_eq here]
  rfl

theorem consume_letsGo (here : x.consumers[k]? = some seat) (stands : seat.IsAt c point) :
    ∃ y, x.Leads (Move.OfReaders [k]) y ∧
      y.memory = x.memory.setQueue c.handle (c.drop (x.memory.queue c.handle)) := by
  -- a reader that sleeps first gives up its sleep, as one that was asked to stop
  let stopped : Liveness := ⟨true, 0, true⟩
  have stops : stopped.check = .error .interrupted := rfl
  obtain ⟨still, awake⟩ := consume_awakes here stands stops
  have own (move : ConsumerMove) : (Move.consume k move).OfReaders [k] := List.mem_singleton_self k
  refine ⟨(x.consume k (.abandon stopped)).consume k .drop,
    (leads_perform (own (.abandon stopped))).trans (leads_perform (own .drop)), ?_⟩
  rw [consume_drop awake, still]

end Reading

end Commons

open Commons

/-- The memory behind a view is that of the commons. -/
structure Host.Shows (h : Host) (v : View) (x : Commons) : Prop where
  inside : v.segment < h.segments.size
  memory : h.segment v = x.memory
  geometry : v.geometry = x.geometry

namespace Host.Shows

variable {h : Host} {v w : View} {x y : Commons}

theorem queue (shows : h.Shows v x) (same : w.segment = v.segment) (handle : Handle) :
    h.queue w handle = x.memory.queue handle := by
  have memory : h.segment w = h.segment v := congrArg (h.segments.getD · default) same
  rw [Host.queue, memory, shows.memory]

theorem congr (shows : h.Shows v x) (memory : y.memory = x.memory)
    (geometry : y.geometry = x.geometry) : h.Shows v y :=
  ⟨shows.inside, shows.memory.trans memory.symm, shows.geometry.trans geometry.symm⟩

theorem put (shows : h.Shows v x) (same : w.segment = v.segment) {s : Segment}
    (memory : s = y.memory) (geometry : y.geometry = x.geometry) : (h.setSegment w s).Shows v y := by
  have put : h.setSegment w s = h.setSegment v s := by rw [setSegment, setSegment, same]
  rw [put]
  refine ⟨?_, ?_, shows.geometry.trans geometry.symm⟩
  · rw [(h.setSegment_spares v s).size]
    exact shows.inside
  · rw [segment_setSegment shows.inside, memory]

theorem putQueue (shows : h.Shows v x) (same : w.segment = v.segment) {handle : Handle} {q : Queue}
    (memory : y.memory = x.memory.setQueue handle q) (geometry : y.geometry = x.geometry) :
    (h.setQueue w handle q).Shows v y := by
  refine shows.put same ?_ geometry
  have found : h.segment w = h.segment v := congrArg (h.segments.getD · default) same
  rw [memory, found, shows.memory]

end Host.Shows

namespace Reader

variable {r : Reader} {h : Host} {v : View} {x y : Commons} {k : Nat}

/-- A reader is no party to the memory behind a view. -/
def IsAloof (r : Reader) (v : View) : Prop := r.reading = none ∨ r.view.segment ≠ v.segment

/-- A reader stands where the consumer in seat `k` does. -/
def Sits (r : Reader) (x : Commons) (k : Nat) : Prop :=
  ∃ c point seat, r.reading = some (c, point) ∧ x.consumers[k]? = some seat ∧ seat.IsAt c point

theorem Sits.lt (sits : r.Sits x k) : k < x.consumers.length := by
  obtain ⟨_, _, _, _, here, _⟩ := sits
  exact (List.getElem?_eq_some_iff.mp here).1

theorem Sits.congr (sits : r.Sits x k)
    (same : ∀ seat, x.consumers[k]? = some seat → y.consumers[k]? = some seat) : r.Sits y k := by
  obtain ⟨c, point, seat, reading, here, stands⟩ := sits
  exact ⟨c, point, seat, reading, same seat here, stands⟩

def Goes (v : View) (x : Commons) (k : Nat) (after : Host × Reader) : Prop :=
  ∃ y, x.Leads (Move.OfReaders [k]) y ∧ after.1.Shows v y ∧
    (after.2.reading = none ∨ after.2.Sits y k)

section Work

variable {seat : ConsumerSeat} {c : Consumer} {point : ReadPoint}

theorem finish_goes (shows : h.Shows v x) (same : r.view.segment = v.segment)
    (here : x.consumers[k]? = some seat) (stands : seat.IsAt c point) (news : ReaderNews) :
    Goes v x k (r.finish h c news) := by
  obtain ⟨y, leads, memory⟩ := consume_letsGo here stands
  refine ⟨y, leads, ?_, .inl rfl⟩
  rw [finish, shows.queue same]
  exact shows.putQueue same memory leads.apart.geometry

theorem work_goes (shows : h.Shows v x) (same : r.view.segment = v.segment)
    (here : x.consumers[k]? = some seat) (stands : seat.IsAt c point) (reads : Nat) :
    Goes v x k (r.work h c point reads) := by
  induction reads generalizing r h x seat c point with
  | zero => exact ⟨x, .refl _ x, shows, .inr ⟨c, point, seat, rfl, here, stands⟩⟩
  | succ reads ih =>
    rw [work]
    split
    · exact finish_goes shows same here stands _
    · obtain ⟨move, -, memory, there⟩ := consume_goesOn here stands
      have steady := (c.readStep_steady true point (x.memory.queue c.handle)).place
      rw [shows.queue same]
      revert memory there steady
      rcases c.readStep true point (x.memory.queue c.handle) with ⟨q, d, step⟩
      intro memory there steady
      have handle : d.handle = c.handle := by
        rcases steady with rfl | rfl
        · rfl
        · rfl
      have own : (Move.consume k move).OfReaders [k] := List.mem_singleton_self k
      have leads : x.Leads (Move.OfReaders [k]) (x.consume k move) := leads_perform own
      have goesOn {after : Host × Reader} (later : Goes v (x.consume k move) k after) :
          Goes v x k after := by
        obtain ⟨y, more, rest⟩ := later
        exact ⟨y, leads.trans more, rest⟩
      have put : (h.setQueue r.view d.handle q).Shows v (x.consume k move) := by
        rw [handle]
        exact shows.putQueue same memory leads.apart.geometry
      match step with
      | .sleeps next =>
        have asleep := stands.sleeps d next
        dsimp only
        split
        · exact goesOn (finish_goes put same there asleep _)
        · exact ⟨_, leads, put, .inr ⟨d, next, _, rfl, there, asleep⟩⟩
      | .ended (.ok (.record payload)) => exact goesOn (ih put same there (stands.ends d _))
      | .ended (.ok .eof) => exact goesOn (finish_goes put same there (stands.ends d _) _)
      | .ended (.ok .wouldBlock) =>
        exact ⟨_, leads, put, .inr ⟨d, .row, _, rfl, there, stands.ends d _⟩⟩
      | .ended (.error cause) => exact goesOn (finish_goes put same there (stands.ends d _) _)

end Work

theorem step_goes (shows : h.Shows v x) (same : r.view.segment = v.segment) (sits : r.Sits x k) :
    Goes v x k ((r.step h).1, (r.step h).2.1) := by
  obtain ⟨c, point, seat, reading, here, stands⟩ := sits
  rw [step, reading]
  dsimp only
  split
  · exact work_goes shows same here stands _
  · exact finish_goes shows same here stands _
  · exact ⟨x, .refl _ x, shows, .inr ⟨c, point, seat, reading, here, stands⟩⟩

theorem step_aloof (shows : h.Shows v x) (aloof : r.IsAloof v) :
    (r.step h).1.Shows v x ∧ (r.step h).2.1.IsAloof v := by
  rcases aloof with ended | elsewhere
  · rw [step, ended]
    exact ⟨shows, .inl ended⟩
  · obtain ⟨spares, view⟩ := r.step_spares h
    refine ⟨⟨spares.size ▸ shows.inside, ?_, shows.geometry⟩, .inr (view ▸ elsewhere)⟩
    rw [spares.others v (Ne.symm elsewhere)]
    exact shows.memory

end Reader

/-- Every reader that works on the memory behind a view has a seat of its own, in the order of the
readers. -/
inductive Seated (v : View) (x : Commons) : List (String × Reader) → List Nat → Prop where
  | nil : Seated v x [] []
  | aloof {name r readers ks} (aloof : r.IsAloof v) (rest : Seated v x readers ks) :
      Seated v x ((name, r) :: readers) ks
  | sits {name r readers k ks} (same : r.view.segment = v.segment) (sits : r.Sits x k)
      (own : k ∉ ks) (rest : Seated v x readers ks) : Seated v x ((name, r) :: readers) (k :: ks)

namespace Seated

variable {v : View} {x y : Commons} {readers : List (String × Reader)} {ks : List Nat} {k : Nat}

theorem lt (seated : Seated v x readers ks) (member : k ∈ ks) : k < x.consumers.length := by
  induction seated with
  | nil => cases member
  | aloof _ _ ih => exact ih member
  | sits _ sits _ _ ih =>
    rcases List.mem_cons.mp member with rfl | later
    · exact sits.lt
    · exact ih later

theorem congr (seated : Seated v x readers ks)
    (same : ∀ k seat, k ∈ ks → x.consumers[k]? = some seat → y.consumers[k]? = some seat) :
    Seated v y readers ks := by
  induction seated with
  | nil => exact .nil
  | aloof aloof _ ih => exact .aloof aloof (ih same)
  | @sits _ _ _ k ks same' sits own _ ih =>
    exact .sits same' (sits.congr fun seat => same k seat List.mem_cons_self) own
      (ih fun n seat member => same n seat (List.mem_cons_of_mem k member))

end Seated

namespace Site

variable {s : Site} {v : View} {x : Commons} {ks : List Nat}

/-- Behind a view of a site are the commons, and its readers there sit in the seats `ks`. -/
structure Shows (s : Site) (v : View) (x : Commons) (ks : List Nat) : Prop where
  host : s.host.Shows v x
  readers : Seated v x s.readers ks

/-- What readers do by themselves: they move in their seats `ks`, and some may leave. -/
def Settles (v : View) (x : Commons) (ks : List Nat) (after : Site) : Prop :=
  ∃ y ls, x.Leads (Move.OfReaders ks) y ∧ ls ⊆ ks ∧ after.Shows v y ls

theorem Shows.settles (shows : s.Shows v x ks) : Settles v x ks s :=
  ⟨x, ks, .refl _ x, List.Subset.refl ks, shows⟩

theorem Settles.trans {t : Site} (first : Settles v x ks s)
    (later : ∀ y ls, s.Shows v y ls → Settles v y ls t) : Settles v x ks t := by
  obtain ⟨y, ls, leads, fewer, shows⟩ := first
  obtain ⟨z, ms, more, fewest, last⟩ := later y ls shows
  refine ⟨z, ms, leads.trans (more.mono fun move own => ?_), List.Subset.trans fewest fewer, last⟩
  cases move with
  | consume k move => exact fewer own
  | _ => cases own

theorem round_settles {h : Host} {readers : List (String × Reader)} (shows : h.Shows v x)
    (seated : Seated v x readers ks) :
    Settles v x ks ⟨(round h readers).1, (round h readers).2.1⟩ := by
  induction readers generalizing h x ks with
  | nil => exact Shows.settles ⟨shows, seated⟩
  | cons reader rest ih =>
    obtain ⟨name, r⟩ := reader
    cases seated with
    | aloof aloof seated =>
      obtain ⟨kept, still⟩ := Reader.step_aloof shows aloof
      obtain ⟨y, ls, leads, fewer, later⟩ := ih kept seated
      exact ⟨y, ls, leads, fewer, later.host, .aloof still later.readers⟩
    | @sits _ _ _ k ks same sits own seated =>
      obtain ⟨y, leads, kept, went⟩ := Reader.step_goes shows same sits
      have view := (r.step_spares h).2
      have apart := leads.apart
      -- the first reader moved in its own seat alone, so the others find theirs as they were
      have others : Seated v y rest ks := by
        refine seated.congr fun n seat member here => (apart.consumers n fun mine => ?_).trans here
        exact own (List.mem_singleton.mp mine ▸ member)
      obtain ⟨z, ls, more, fewer, later⟩ := ih kept others
      have all : x.Leads (Move.OfReaders (k :: ks)) z := by
        refine (leads.mono fun move mine => ?_).trans (more.mono fun move theirs => ?_)
        · cases move with
          | consume n move => exact List.mem_cons.mpr (.inl (List.mem_singleton.mp mine))
          | _ => cases mine
        · cases move with
          | consume n move => exact List.mem_cons_of_mem k theirs
          | _ => cases theirs
      rcases went with ended | sits
      · refine ⟨z, ls, all, fun n member => List.mem_cons_of_mem k (fewer member), later.host, ?_⟩
        exact .aloof (.inl ended) later.readers
      · have stays : k ∉ ls := fun member => own (fewer member)
        refine ⟨z, k :: ls, all, List.cons_subset_cons k fewer, later.host, ?_⟩
        refine .sits (view.symm ▸ same) (sits.congr fun seat here => ?_) stays later.readers
        exact (more.apart.consumers k own).trans here

theorem settleFor_settles (shows : s.Shows v x ks) (rounds : Nat) :
    Settles v x ks (s.settleFor rounds) := by
  induction rounds generalizing s x ks with
  | zero => exact shows.settles
  | succ rounds ih =>
    have round := round_settles shows.host shows.readers
    rw [settleFor]
    split
    · rename_i host readers went
      rw [went] at round
      exact round.trans fun y ls later => ih later
    · rename_i host readers went
      rw [went] at round
      exact round

theorem Shows.settle (shows : s.Shows v x ks) : Settles v x ks s.settle :=
  settleFor_settles shows _

/-- While a process sleeps, the readers get on; it gives up only when it has a reason to. -/
theorem sleep_cases (s : Site) (v : View) (latch : Host → Latch) (timeoutMs : Option Nat) :
    ((s.sleep v latch timeoutMs).1 = s ∨ (s.sleep v latch timeoutMs).1 = s.settle) ∧
      ∀ cause, (s.sleep v latch timeoutMs).2 = .failed cause →
        ((s.sleep v latch timeoutMs).1.host.liveness v).check = .error cause := by
  have begins (l : Latch) (live : Liveness) (cause : Error)
      (failed : l.beginWait timeoutMs live = .failed cause) : live.check = .error cause := by
    rw [Latch.beginWait] at failed
    cases checked : live.check with
    | error reason =>
      rw [checked] at failed
      cases failed
      rfl
    | ok _ =>
      rw [checked] at failed
      dsimp only at failed
      split at failed
      · cases failed
      · split at failed
        · cases failed
        · cases failed
  have stays (l : Latch) (live : Liveness) (cause : Error)
      (failed : l.keepWaiting live = .failed cause) : live.check = .error cause := by
    rw [Latch.keepWaiting] at failed
    split at failed
    · cases failed
    · cases checked : live.check with
      | error reason =>
        rw [checked] at failed
        cases failed
        rfl
      | ok _ =>
        rw [checked] at failed
        cases failed
  rw [sleep]
  split
  · dsimp only
    split
    · refine ⟨.inr rfl, fun cause failed => ?_⟩
      dsimp only at failed
      split at failed
      · cases failed
      · cases failed
    · exact ⟨.inr rfl, fun cause failed => stays _ _ cause failed⟩
  · exact ⟨.inl rfl, fun cause failed => begins _ _ cause failed⟩

theorem Shows.sleep (shows : s.Shows v x ks) (latch : Host → Latch) (timeoutMs : Option Nat) :
    Settles v x ks (s.sleep v latch timeoutMs).1 := by
  rcases (s.sleep_cases v latch timeoutMs).1 with same | settled
  · rw [same]
    exact shows.settles
  · rw [settled]
    exact shows.settle

end Site

end RecordExchange
