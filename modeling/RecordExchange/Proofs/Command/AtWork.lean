import RecordExchange.Proofs.Command.Course
import RecordExchange.Proofs.Host.Readers

set_option autoImplicit false

/-!
A process at work on a site.

While a process of the site writes, drains, reads or unbinds, nobody else moves but the readers, and
they whenever it sleeps. Each of these operations is followed here from its first step to its last
as moves of all parties: those that only move records lie beside the course of a script, and those
of unbinding are on it.
-/

namespace RecordExchange

open Command (Stake Role Script Outcome Ending)
open Commons

/-- What is outstanding is read off the claims and the producers. -/
theorem Ledger.outstanding_congr {l after : Ledger} (claims : after.claims = l.claims)
    (producers : after.producers = l.producers) (name : String) :
    after.outstanding name = l.outstanding name := by
  rw [outstanding, outstanding, claims, producers]

/-- A claim that is refused changes nothing. -/
theorem Segment.acquire_refused {s : Segment} {g : Geometry} {live : Liveness} {tries : Nat}
    {session : Session} {name : String} {consumers : Nat} {cause : Error}
    (refused : (s.acquire g live tries session name consumers).2 = .error cause) :
    (s.acquire g live tries session name consumers).1 = s := by
  cases fault : claimFault? g name consumers with
  | some reason => rw [acquire, fault]
  | none =>
    rw [acquire_eq fault] at refused ⊢
    rcases s.tryAcquire_cases g live session name consumers with
      ⟨result, other, looked⟩ | ⟨i, b, -, -, -, -, looked⟩ | ⟨i, -, looked⟩
    · rw [looked]
      rcases result with reason | claim
      · rfl
      · cases claim with
        | held => exact absurd rfl other
        | stale => rfl
    · rw [looked] at refused
      cases refused
    · rw [looked] at refused
      cases refused

namespace Producer

variable {p : Producer} {s : Segment}

theorem settle_ends (p : Producer) (failed : Bool) (live : Liveness)
    (idle : ¬ (s.queue p.handle).lanes.any isRunning = true) :
    ∃ result, (p.closeStep s failed live .settle).2.2 = .ended result := by
  cases checked : live.check with
  | error cause =>
    rw [closeStep_settle_failed checked]
    exact ⟨_, rfl⟩
  | ok _ =>
    rw [closeStep_settle_over checked idle]
    exact ⟨_, rfl⟩

end Producer

theorem Site.closeFor_settle (s : Site) (v : View) (p : Producer) (failed : Bool) (steps : Nat)
    (idle : ¬ ((s.host.segment v).queue p.handle).lanes.any Producer.isRunning = true) :
    ∃ result, (s.closeFor v p failed .settle (steps + 1)).2 = some result := by
  obtain ⟨result, ended⟩ := p.settle_ends failed (s.host.liveness v) idle
  refine ⟨result, ?_⟩
  rw [closeFor]
  revert ended
  rcases p.closeStep (s.host.segment v) failed (s.host.liveness v) .settle with ⟨d, memory, step⟩
  rintro rfl
  rfl

namespace Commons

variable {x y z : Commons} {session : Session} {k : Nat}

theorem produce_others (x : Commons) (k : Nat) (move : ProducerMove) :
    (x.produce k move).claims = x.claims ∧ (x.produce k move).consumers = x.consumers := by
  rw [produce]
  split
  · exact ⟨rfl, rfl⟩
  · exact ⟨rfl, rfl⟩

/-- From `x` to `y` nobody but one session made a claim, gave one up or was bound as a producer. -/
structure Alone (x y : Commons) (session : Session) : Prop where
  claims : ∀ name,
    y.claims.countP (fun claim => claim.2 == name && claim.1 != session) =
      x.claims.countP fun claim => claim.2 == name && claim.1 != session
  producers : ∃ own : List ProducerSeat, y.producers = x.producers ++ own ∧
    ∀ seat ∈ own, seat.producer.session = session

theorem Alone.refl (x : Commons) (session : Session) : x.Alone x session :=
  ⟨fun _ => rfl, [], (List.append_nil _).symm, nofun⟩

theorem Alone.congr (alone : x.Alone y session) (claims : z.claims = y.claims)
    (producers : z.producers = y.producers) : x.Alone z session :=
  ⟨claims ▸ alone.claims, producers ▸ alone.producers⟩

theorem Alone.length_le (alone : x.Alone y session) : x.producers.length ≤ y.producers.length := by
  obtain ⟨own, listed, -⟩ := alone.producers
  rw [listed, List.length_append]
  exact Nat.le_add_right ..

theorem Alone.claim {name : String} (alone : x.Alone y session)
    (claims : z.claims = (session, name) :: y.claims) (producers : z.producers = y.producers) :
    x.Alone z session := by
  refine ⟨fun other => ?_, producers ▸ alone.producers⟩
  rw [claims, List.countP_cons, alone.claims]
  simp only [bne_self_eq_false, Bool.and_false, Bool.false_eq_true, ↓reduceIte, Nat.add_zero]

theorem Alone.giveUp {name : String} (alone : x.Alone y session)
    (claims : z.claims = y.claims.erase (session, name)) (producers : z.producers = y.producers) :
    x.Alone z session := by
  refine ⟨fun other => ?_, producers ▸ alone.producers⟩
  rw [claims, List.countP_erase, alone.claims]
  simp only [bne_self_eq_false, Bool.and_false, Bool.false_eq_true, and_false, ↓reduceIte,
    Nat.sub_zero]

theorem Alone.bind {seat : ProducerSeat} (alone : x.Alone y session) (claims : z.claims = y.claims)
    (producers : z.producers = y.producers ++ [seat]) (mine : seat.producer.session = session) :
    x.Alone z session := by
  obtain ⟨own, listed, all⟩ := alone.producers
  refine ⟨claims ▸ alone.claims, own ++ [seat], ?_, ?_⟩
  · rw [producers, listed, List.append_assoc]
  · exact List.forall_mem_append.mpr ⟨all, List.forall_mem_singleton.mpr mine⟩

theorem Alone.produce (alone : x.Alone y session) (since : x.producers.length ≤ k)
    (move : ProducerMove) : x.Alone (y.produce k move) session := by
  obtain ⟨own, producers, all⟩ := alone.producers
  cases here : y.producers[k]? with
  | none =>
    rw [Commons.produce, here]
    exact alone
  | some seat =>
    have mine : seat.producer.session = session := by
      rw [producers, List.getElem?_append_right since] at here
      exact all seat (List.mem_of_getElem? here)
    have same : (seat.step y.memory move).1.producer.session = seat.producer.session := by
      rcases seat.step_cases y.memory move with ⟨same, -⟩ | ⟨-, closed, -⟩
      · exact congrArg Holding.session same
      · exact congrArg Holding.session closed
    rw [produce_eq here]
    refine ⟨alone.claims, own.set (k - x.producers.length) (seat.step y.memory move).1, ?_, ?_⟩
    · dsimp only
      rw [producers, List.set_append_right _ _ since]
    · intro other member
      rcases List.mem_or_eq_of_mem_set member with before | now
      · exact all other before
      · rw [now, same, mine]

theorem Alone.elsewhere (alone : x.Alone y session) (name : String) :
    x.ledger.elsewhere y.ledger session name = x.ledger.outstanding name := by
  obtain ⟨own, producers, all⟩ := alone.producers
  have listed : y.ledger.producers = x.ledger.producers ++ own.map ProducerSeat.holding := by
    change y.producers.map ProducerSeat.holding = _
    rw [producers, List.map_append]
    rfl
  have mine : (own.map ProducerSeat.holding).countP (fun held =>
      held.isOpen && held.handle.name == name && held.session != session) = 0 := by
    rw [List.countP_eq_zero]
    intro held member
    obtain ⟨seat, among, rfl⟩ := List.mem_map.mp member
    have same : seat.holding.session = session := all seat among
    simp only [same, bne_self_eq_false, Bool.and_false, Bool.false_eq_true, not_false_eq_true]
  have others : y.ledger.claims.countP (fun claim => claim.2 == name && claim.1 != session) =
      x.ledger.claims.countP fun claim => claim.2 == name && claim.1 != session :=
    alone.claims name
  rw [Ledger.elsewhere, listed, List.take_left, List.drop_left, mine, others, Nat.add_zero,
    ← x.ledger.countP_claims, Ledger.outstanding]

end Commons

/-- A process of `session`, with a stake in `queue`, is at work on a site that shows the commons
`x`, where nobody else moved but readers since they were `base`. -/
structure AtWork (base : Commons) (v : View) (session : Session) (queue : String) (stake : Stake)
    (s : Site) (x : Commons) (ks : List Nat) : Prop where
  founded : x.Founded
  shows : s.Shows v x ks
  alone : base.Alone x session
  claimed : stake = .held → (session, queue) ∈ x.claims

/-- A move of a reader in `ks`, or one of the process's own in seat `k` that only moves records. -/
def Move.Tends (role : Role) (k : Nat) (ks : List Nat) : Move → Prop
  | .produce n move => role = .producer ∧ n = k ∧ ∃ call, move = .call call
  | .consume n move => n ∈ ks ∨ role = .consumer ∧ n = k ∧ move ≠ .drop
  | _ => False

/-- Work in seat `k` at which the readers get on, up to where it is as `own` says. -/
def Works (base : Commons) (v : View) (session : Session) (queue : String) (stake : Stake)
    (role : Role) (k : Nat) (x : Commons) (ks : List Nat) (after : Site) (own : Commons → Prop) :
    Prop :=
  ∃ y ls, x.Leads (Move.Tends role k ks) y ∧ ls ⊆ ks ∧
    AtWork base v session queue stake after y ls ∧ own y

section AtWork

variable {base : Commons} {v : View} {session : Session} {queue : String} {stake : Stake}
  {role : Role} {s t : Site} {x y : Commons} {ks ls : List Nat} {k : Nat} {own more : Commons → Prop}

theorem AtWork.works (work : AtWork base v session queue stake s x ks) (stands : own x) :
    Works base v session queue stake role k x ks s own :=
  ⟨x, ks, .refl _ x, List.Subset.refl ks, work, stands⟩

theorem Works.trans (first : Works base v session queue stake role k x ks s own)
    (later : ∀ y ls, ls ⊆ ks → AtWork base v session queue stake s y ls → own y →
      Works base v session queue stake role k y ls t more) :
    Works base v session queue stake role k x ks t more := by
  obtain ⟨y, ls, leads, fewer, work, stands⟩ := first
  obtain ⟨z, ms, leads', fewest, last⟩ := later y ls fewer work stands
  refine ⟨z, ms, leads.trans (leads'.mono fun move tends => ?_), List.Subset.trans fewest fewer,
    last⟩
  cases move with
  | produce n move => exact tends
  | consume n move => exact tends.imp (fun member => fewer member) id
  | _ => cases tends

theorem AtWork.settles (work : AtWork base v session queue stake s x ks)
    (settles : Site.Settles v x ks t) (kept : ∀ y, x.Apart ks y → own y) :
    Works base v session queue stake role k x ks t own := by
  obtain ⟨y, ls, leads, fewer, shows⟩ := settles
  have apart := leads.apart
  refine ⟨y, ls, leads.mono fun move reads => ?_, fewer, ⟨?_, shows, ?_, ?_⟩, kept y apart⟩
  · cases move with
    | consume n move => exact .inl reads
    | _ => cases reads
  · exact leads.invariant work.founded fun z move _ founded => founded.perform move
  · exact work.alone.congr apart.claims apart.producers
  · exact fun held => apart.claims ▸ work.claimed held

/-- The process sleeps, and what is not the readers' stays. It gives up only with a reason. -/
theorem AtWork.sleeps (work : AtWork base v session queue stake s x ks) {latch : Host → Latch}
    {timeoutMs : Option Nat} {state : WaitState} (slept : s.sleep v latch timeoutMs = (t, state))
    (kept : ∀ y, x.Apart ks y → own y) :
    Works base v session queue stake role k x ks t own ∧
      ∀ cause, state = .failed cause → (t.host.liveness v).check = .error cause := by
  have settles := work.shows.sleep latch timeoutMs
  have reason := (s.sleep_cases v latch timeoutMs).2
  rw [slept] at settles reason
  exact ⟨work.settles settles kept, reason⟩

theorem AtWork.produce (work : AtWork base v session queue stake s x ks)
    (since : base.producers.length ≤ k) (move : ProducerMove) {host : Host}
    (shows : host.Shows v (x.produce k move)) :
    AtWork base v session queue stake ⟨host, s.readers⟩ (x.produce k move) ks := by
  obtain ⟨claims, consumers⟩ := produce_others x k move
  refine ⟨work.founded.perform (.produce k move), ⟨shows, ?_⟩, work.alone.produce since move, ?_⟩
  · exact work.shows.readers.congr fun n seat _ here => consumers ▸ here
  · exact fun held => claims ▸ work.claimed held

theorem AtWork.consume (work : AtWork base v session queue stake s x ks) (apart : k ∉ ks)
    (move : ConsumerMove) {host : Host} (shows : host.Shows v (x.consume k move)) :
    AtWork base v session queue stake ⟨host, s.readers⟩ (x.consume k move) ks := by
  have kept := consume_apart x k move
  refine ⟨work.founded.perform (.consume k move), ⟨shows, ?_⟩,
    work.alone.congr kept.claims kept.producers, ?_⟩
  · refine work.shows.readers.congr fun n seat member here => ?_
    have other : n ∉ [k] := fun same => apart (List.mem_singleton.mp same ▸ member)
    exact (kept.consumers n other).trans here
  · exact fun held => kept.claims ▸ work.claimed held

section Producing

variable {p : Producer} {limit turn : Nat}

theorem AtWork.call (work : AtWork base v session queue stake s x ks)
    (since : base.producers.length ≤ k) (here : x.producers[k]? = some ⟨p, limit, .bound, turn⟩)
    (call : ProducerCall) {after : Producer × Queue}
    (made : ProducerSeat.call p limit (s.host.queue v p.handle) call = after) :
    Works base v session queue stake .producer k x ks
      ⟨s.host.setQueue v after.1.handle after.2, s.readers⟩
      fun y => y.producers[k]? = some ⟨after.1, limit, .bound, turn⟩ := by
  rw [work.shows.host.queue rfl] at made
  have handle : after.1.handle = p.handle := by
    rw [← made]
    exact congrArg Prod.fst (ProducerSeat.call_keeps ..).1
  have stepped : (ProducerSeat.mk p limit .bound turn).step x.memory (.call call) =
      (⟨after.1, limit, .bound, turn⟩, x.memory.setQueue p.handle after.2) := by
    rw [← made]
    rfl
  have shows : (s.host.setQueue v after.1.handle after.2).Shows v (x.produce k (.call call)) := by
    rw [handle]
    refine work.shows.host.putQueue rfl ?_ (perform_geometry x (.produce k (.call call)))
    rw [produce_eq here, stepped]
  refine ⟨x.produce k (.call call), ks, ?_, List.Subset.refl ks,
    work.produce since (.call call) shows, ?_⟩
  · have own : (Move.produce k (.call call)).Tends .producer k ks := ⟨rfl, rfl, call, rfl⟩
    exact leads_perform own
  · show (x.produce k (.call call)).producers[k]? = _
    rw [produce_seat here, stepped]

theorem waitOnProducerLatch_works (work : AtWork base v session queue stake s x ks)
    (since : base.producers.length ≤ k) (here : x.producers[k]? = some ⟨p, limit, .bound, turn⟩)
    (timeoutMs : Option Nat) :
    Works base v session queue stake .producer k x ks
      (s.waitOnProducerLatch v p.handle timeoutMs).1
      fun y => y.producers[k]? = some ⟨p, limit, .bound, turn⟩ := by
  rw [Site.waitOnProducerLatch]
  rcases fell : s.sleep v (Site.producerLatch v p.handle) timeoutMs with ⟨t, state⟩
  have slept : Works base v session queue stake .producer k x ks t
      fun y => y.producers[k]? = some ⟨p, limit, .bound, turn⟩ :=
    (work.sleeps fell fun y apart => apart.producers ▸ here).1
  have waited : Works base v session queue stake .producer k x ks
      ⟨t.host.setQueue v p.handle (Producer.afterWait (t.host.queue v p.handle)), t.readers⟩
      fun y => y.producers[k]? = some ⟨p, limit, .bound, turn⟩ :=
    slept.trans fun y ls _ work here => work.call since here .waited rfl
  cases state with
  | failed cause => exact slept
  | asleep => exact slept
  | woken => exact waited
  | timedOut => exact waited

theorem drainFor_works (work : AtWork base v session queue stake s x ks)
    (since : base.producers.length ≤ k) (here : x.producers[k]? = some ⟨p, limit, .bound, turn⟩)
    (timeoutMs passes : Nat) :
    Works base v session queue stake .producer k x ks (s.drainFor v p timeoutMs passes).1
      fun y => y.producers[k]? =
        some ⟨(s.drainFor v p timeoutMs passes).2.1, limit, .bound, turn⟩ := by
  induction passes generalizing s x ks p with
  | zero => exact work.works here
  | succ passes ih =>
    have passed := work.call since here .drain rfl
    rw [Site.drainFor]
    simp only [ProducerSeat.call] at passed
    revert passed
    rcases p.drainStep (s.host.queue v p.handle) with ⟨p', q, result | pending⟩
    · exact id
    · intro passed
      have waited := passed.trans fun y ls _ work here =>
        waitOnProducerLatch_works work since here (some timeoutMs)
      dsimp only
      revert waited
      rcases Site.waitOnProducerLatch _ v p'.handle (some timeoutMs) with
        ⟨t, _ | cause | timedOut⟩
      · exact id
      · exact id
      · intro waited
        cases timedOut with
        | true => exact waited
        | false => exact waited.trans fun y ls _ work here => ih work here

end Producing

section Reading

variable {seat : ConsumerSeat} {c : Consumer} {point : ReadPoint}

theorem readFor_works (work : AtWork base v session queue stake s x ks) (apart : k ∉ ks)
    (here : x.consumers[k]? = some seat) (stands : seat.IsAt c point) (steps : Nat)
    {after : Consumer} {result : Except Error ReadOutcome}
    (ended : s.readFor v c true point steps = (t, after, some result)) :
    Works base v session queue stake .consumer k x ks t
      fun y => ∃ turn, y.consumers[k]? = some ⟨after, none, true, turn⟩ := by
  -- the read stands in its seat where the loop does; what the readers do meanwhile is elsewhere
  induction steps generalizing s x ks seat c point with
  | zero => cases ended
  | succ steps ih =>
    obtain ⟨move, mine, memory, there⟩ := consume_goesOn here stands
    have steady := (c.readStep_steady true point (x.memory.queue c.handle)).place
    rw [Site.readFor, work.shows.host.queue rfl] at ended
    revert memory there steady ended
    rcases c.readStep true point (x.memory.queue c.handle) with ⟨q, d, step⟩
    intro ended memory there steady
    have handle : d.handle = c.handle := by
      rcases steady with rfl | rfl
      · rfl
      · rfl
    have shows : (s.host.setQueue v d.handle q).Shows v (x.consume k move) := by
      rw [handle]
      exact work.shows.host.putQueue rfl memory (perform_geometry x (.consume k move))
    have own : (Move.consume k move).Tends .consumer k ks := .inr ⟨rfl, rfl, mine⟩
    have took : Works base v session queue stake .consumer k x ks
        ⟨s.host.setQueue v d.handle q, s.readers⟩
        fun y => y.consumers[k]? = some (seat.after d step) :=
      ⟨x.consume k move, ks, leads_perform own, List.Subset.refl ks,
        work.consume apart move shows, there⟩
    refine took.trans fun y ls fewer work here => ?_
    have apart : k ∉ ls := fun member => apart (fewer member)
    cases step with
    | ended result =>
      cases ended
      have opened := stands.opened
      obtain ⟨b, reading, isOpen, turn⟩ := seat
      cases opened
      exact work.works ⟨turn, here⟩
    | sleeps next =>
      have asleep := stands.sleeps d next
      dsimp only at ended work
      generalize (⟨s.host.setQueue v d.handle q, s.readers⟩ : Site) = u at ended work
      rcases slept : u.sleep v (fun h => ((h.queue v d.handle).lane d.index).latch) none with
        ⟨w, state⟩
      rw [slept] at ended
      obtain ⟨rested, stopped⟩ : Works base v session queue stake .consumer k y ls w
          (fun z => z.consumers[k]? = some (seat.after d (.sleeps next))) ∧ _ :=
        work.sleeps slept fun z kept => (kept.consumers k apart).trans here
      refine rested.trans fun z ms fewer work here => ?_
      have apart : k ∉ ms := fun member => apart (fewer member)
      cases state with
      | failed cause =>
        cases ended
        obtain ⟨still, awake⟩ := consume_awakes here asleep (stopped cause rfl)
        have leaves : (Move.consume k (.abandon (t.host.liveness v))).Tends .consumer k ms :=
          .inr ⟨rfl, rfl, ConsumerMove.noConfusion⟩
        have shows := work.shows.host.congr still (perform_geometry z (.consume k _))
        exact ⟨_, ms, leads_perform leaves, List.Subset.refl ms, work.consume apart _ shows,
          _, awake⟩
      | woken => exact ih work apart here asleep ended
      | asleep => cases ended
      | timedOut => cases ended

end Reading

section Script

variable {script : Script stake role} {ending : Ending} {z : Commons}

/-- A way through a script, of moves that are modest, leads from `x` to `y` and ends as `ending`. -/
def Command.Script.Completes (session : Session) (queue : String) (script : Script stake role) (k : Nat)
    (x : Commons) (ending : Ending) (y : Commons) : Prop :=
  ∃ moves, Course session queue script k x moves ending ∧ Along Modest x moves ∧ x.run moves = y

theorem completes_move {stake' : Stake} {role' : Role} {before : Script stake' role'} {n : Nat}
    (move : Move) (rest : script.Completes session queue k (x.perform move) ending y)
    (modest : x.Modest move)
    (course : ∀ moves, Course session queue script k (x.perform move) moves ending →
      Course session queue before n x (move :: moves) ending) :
    before.Completes session queue n x ending y := by
  obtain ⟨moves, way, along, reached⟩ := rest
  exact ⟨move :: moves, course moves way, ⟨modest, along⟩, reached⟩

theorem Move.Tends.aside {move : Move} (tends : move.Tends role k ks)
    (apart : role = .consumer → k ∉ ks) : move.Aside session role k ∧ x.Modest move := by
  cases move with
  | produce n move => exact ⟨fun _ _ => tends.2.2, trivial⟩
  | consume n move =>
    refine ⟨fun reads same => ?_, trivial⟩
    rcases tends with member | ⟨-, -, stays⟩
    · exact absurd (same ▸ member) (apart reads)
    · exact stays
  | _ => cases tends

theorem completes_tends (leads : x.Leads (Move.Tends role k ks) y)
    (apart : role = .consumer → k ∉ ks)
    (rest : script.Completes session queue k y ending z) :
    script.Completes session queue k x ending z := by
  obtain ⟨moves, all, rfl⟩ := leads
  induction moves generalizing x with
  | nil => exact rest
  | cons move others ih =>
    obtain ⟨tends, later⟩ := List.forall_mem_cons.mp all
    obtain ⟨aside, modest⟩ : move.Aside session role k ∧ x.Modest move := tends.aside apart
    exact completes_move move (ih later rest) modest fun moves way => .aside aside way

end Script

section Closing

variable {p : Producer} {limit turn : Nat} {failed : Bool} {result : Except Error Unit}
  {next : Option (Except Error Unit) → Script .held .gone}

/-- Ways on from where unbinding came to its end are ways on from where it is at `x`. -/
def Unbinds (base : Commons) (v : View) (session : Session) (queue : String)
    (next : Option (Except Error Unit) → Script .held .gone) (failed : Bool) (k : Nat)
    (x : Commons) (after : Site) (result : Except Error Unit) : Prop :=
  ∃ y ls, AtWork base v session queue .held after y ls ∧ ∀ ending z,
    (next (some result)).Completes session queue k y ending z →
      (Script.unbind failed next).Completes session queue k x ending z

theorem Unbinds.step {seat : ProducerSeat} {move : ProducerMove}
    (later : Unbinds base v session queue next failed k (x.produce k move) t result)
    (here : x.producers[k]? = some seat) (own : move.Unbinds failed)
    (goesOn : seat.ends x.memory move = none) :
    Unbinds base v session queue next failed k x t result := by
  obtain ⟨y, ls, after, rest⟩ := later
  refine ⟨y, ls, after, fun ending z done => ?_⟩
  exact completes_move (.produce k move) (rest ending z done) trivial fun moves way =>
    .unbinds here own goesOn way

theorem AtWork.unbound {seat : ProducerSeat} {move : ProducerMove}
    (after : AtWork base v session queue .held t (x.produce k move) ks)
    (here : x.producers[k]? = some seat) (own : move.Unbinds failed)
    (ends : seat.ends x.memory move = some (failed, result)) :
    Unbinds base v session queue next failed k x t result :=
  ⟨_, ks, after, fun _ _ done =>
    completes_move (.produce k move) done trivial fun _ way => .ends here own ends way⟩

theorem Unbinds.tends (leads : x.Leads (Move.Tends .producer k ks) y)
    (later : Unbinds base v session queue next failed k y t result) :
    Unbinds base v session queue next failed k x t result := by
  obtain ⟨z, ls, after, rest⟩ := later
  exact ⟨z, ls, after, fun ending u done =>
    completes_tends leads Role.noConfusion (rest ending u done)⟩

theorem AtWork.wakes (work : AtWork base v session queue stake s x ks)
    (since : base.producers.length ≤ k) {pass : ClosePass}
    (here : x.producers[k]? = some ⟨p, limit, .asleep failed pass, turn⟩) (timely : Bool) :
    AtWork base v session queue stake s (x.produce k (.wake timely)) ks := by
  refine work.produce since (.wake timely) (work.shows.host.congr ?_ ?_)
  · rw [produce_eq here]
    rfl
  · exact perform_geometry x (.produce k (.wake timely))

theorem closeFor_unbinds (work : AtWork base v session queue .held s x ks)
    (since : base.producers.length ≤ k) {point : ClosePoint}
    (here : x.producers[k]? = some ⟨p, limit, .closing failed point, turn⟩) (steps : Nat)
    (ended : s.closeFor v p failed point steps = (t, some result)) :
    Unbinds base v session queue next failed k x t result := by
  induction steps generalizing s x ks p point with
  | zero => cases ended
  | succ steps ih =>
    let live := s.host.liveness v
    rw [Site.closeFor, work.shows.host.memory] at ended
    rcases stepped : p.closeStep x.memory failed live point with ⟨d, memory, step⟩
    obtain ⟨put, there⟩ := produce_close here stepped
    have shows : (s.host.setSegment v memory).Shows v (x.produce k (.close live)) :=
      work.shows.host.put rfl put.symm (perform_geometry x (.produce k (.close live)))
    have work := work.produce since (.close live) shows
    simp only [live, stepped] at ended
    cases step with
    | ended result' =>
      cases ended
      refine work.unbound here trivial ?_
      simp only [ProducerSeat.ends, stepped]
    | goesOn point =>
      refine (ih work there ended).step here trivial ?_
      simp only [ProducerSeat.ends, stepped]
    | waits pass =>
      suffices later : Unbinds base v session queue next failed k (x.produce k (.close live)) t
          result from later.step here trivial (by simp only [ProducerSeat.ends, stepped])
      dsimp only at ended
      generalize (⟨s.host.setSegment v memory, s.readers⟩ : Site) = u at ended work
      rcases fell : u.sleep v (Site.producerLatch v d.handle) (some v.config.connectTimeoutMs) with
        ⟨w, state⟩
      rw [fell] at ended
      obtain ⟨⟨y, ls, leads, fewer, work, here⟩, stopped⟩ :
          Works base v session queue .held .producer k (x.produce k (.close live)) ks w
            (fun y => y.producers[k]? = some ⟨d, limit, .asleep failed pass, turn⟩) ∧ _ :=
        work.sleeps fell fun y kept => kept.producers ▸ there
      refine .tends leads ?_
      -- nobody signalled in time, or nobody is left to: the readers get on once more
      have late (ended : w.settle.closeFor v d failed (.timedOut pass) steps = (t, some result)) :
          Unbinds base v session queue next failed k y t result := by
        obtain ⟨z, ms, leads, -, work, here⟩ :
            Works base v session queue .held .producer k y ls w.settle
              fun z => z.producers[k]? = some ⟨d, limit, .asleep failed pass, turn⟩ :=
          work.settles work.shows.settle fun z kept => kept.producers ▸ here
        have later := ih (work.wakes since here false) (produce_seat here _) ended
        exact .tends leads (later.step here trivial rfl)
      cases state with
      | failed cause =>
        cases ended
        have checked := stopped cause rfl
        have gaveUp : (ProducerSeat.mk d limit (.asleep failed pass) turn).step y.memory
            (.giveUp (w.host.liveness v)) =
              (⟨(d.closeFailed y.memory cause).1, limit, .gone, turn⟩,
                (d.closeFailed y.memory cause).2.1) := by
          simp only [ProducerSeat.step, checked]
        have shows : (w.host.setSegment v (d.closeFailed (w.host.segment v) cause).2.1).Shows v
            (y.produce k (.giveUp (w.host.liveness v))) := by
          refine work.shows.host.put rfl ?_ (perform_geometry y (.produce k _))
          rw [produce_eq here, gaveUp, work.shows.host.memory]
        refine (work.produce since _ shows).unbound here trivial ?_
        simp only [ProducerSeat.ends, checked]
      | woken =>
        have later := ih (work.wakes since here true) (produce_seat here _) ended
        exact later.step here trivial rfl
      | asleep => exact late ended
      | timedOut => exact late ended

theorem unbind_unbinds (work : AtWork base v session queue .held s x ks)
    (since : base.producers.length ≤ k) (here : x.producers[k]? = some ⟨p, limit, .bound, turn⟩)
    (ended : s.unbind v p failed = (t, some result)) :
    Unbinds base v session queue next failed k x t result := by
  rw [Site.unbind] at ended
  rcases begun : p.closeStart failed with ⟨d, point⟩
  have seat : (ProducerSeat.mk p limit .bound turn).step x.memory (.unbind failed) =
      (⟨d, limit, .closing failed point, turn⟩, x.memory) := by
    simp only [ProducerSeat.step, begun]
  have there := produce_seat here (.unbind failed)
  have still : (x.produce k (.unbind failed)).memory = x.memory := by
    rw [produce_eq here, seat]
  have shows := work.shows.host.congr still (perform_geometry x (.produce k (.unbind failed)))
  rw [begun] at ended
  rw [seat] at there
  exact (closeFor_unbinds (work.produce since (.unbind failed) shows) since there _ ended).step here
    rfl rfl

/-- A producer that lets go as a failed one waits for nobody. -/
theorem unbind_returns (work : AtWork base v session queue stake s x ks)
    (here : x.producers[k]? = some ⟨p, limit, .bound, turn⟩) :
    ∃ result, (s.unbind v p true).2 = some result := by
  have listed : x.ledger.producers[k]? = some (ProducerSeat.mk p limit .bound turn).holding := by
    change (x.producers.map ProducerSeat.holding)[k]? = _
    rw [List.getElem?_map, here]
    rfl
  have serves : x.memory.Serves p.handle := work.founded.built.serves
    (work.founded.sound.producers _ (List.mem_of_getElem? listed))
  -- a sweep and a settling, between which nobody moves
  obtain ⟨n, patience⟩ : ∃ n, Site.patience = n + 2 := ⟨Site.patience - 2, rfl⟩
  let d := p.dropOverflow
  let live := s.host.liveness v
  let swept := x.memory.setQueue p.handle ((x.memory.queue p.handle).mapLanes
    (Producer.sweepLane true))
  have sweep : d.closeStep x.memory true live (.run .sweep) = (d, swept, .goesOn .settle) :=
    Producer.closeStep_sweep_done Bool.false_ne_true
  have put : (s.host.setSegment v swept).segment v = swept :=
    Host.segment_setSegment work.shows.host.inside swept
  change ∃ result, (s.closeFor v d true (.run .sweep) Site.patience).2 = some result
  rw [patience, Site.closeFor, work.shows.host.memory, sweep]
  apply Site.closeFor_settle
  rw [put]
  exact Producer.sweep_idle serves Bool.false_ne_true

end Closing

end AtWork

end RecordExchange
