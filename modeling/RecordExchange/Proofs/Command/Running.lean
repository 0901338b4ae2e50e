import RecordExchange.Proofs.Command.AtWork

set_option autoImplicit false

/-!
What a command leaves behind on a site.

A site performs the script of a command with nobody else at work but its readers. Whatever it makes
of the script is on one of the courses of it, and since the others neither claim a queue meanwhile
nor give one up, the counts afterwards are those before, but for a claim that was not given up.
-/

namespace RecordExchange

open Command (Stake Role Script Outcome Ending)
open Commons

section AtWork

variable {base : Commons} {v : View} {session : Session} {queue : String} {stake : Stake}
  {role : Role} {s t : Site} {x y : Commons} {ks ls : List Nat} {k : Nat} {host : Host}

/-- What a process holds in a role is in seat `k`, with no reader there. -/
def Command.Role.Holds (base x : Commons) (v : View) (ks : List Nat) (k : Nat) :
    (role : Role) → role.Grip → Prop
  | .producer, p => base.producers.length ≤ k ∧
      ∃ turn, x.producers[k]? = some ⟨p, v.config.overflowMemoryLimit, .bound, turn⟩
  | .consumer, c => k ∉ ks ∧ ∃ turn, x.consumers[k]? = some ⟨c, none, true, turn⟩
  | .unbound, _ => True
  | .gone, _ => True

/-- A process is where a script begins, and the references it is still to take have room. -/
structure Fits (base : Commons) (v : View) (session : Session) (queue : String) (stake : Stake)
    (role : Role) (grip : role.Grip) (s : Site) (x : Commons) (ks : List Nat) (k : Nat) :
    Prop where
  work : AtWork base v session queue stake s x ks
  claimable : stake = .none → x.ledger.outstanding queue + 2 < Word.values32
  bindable : stake = .held → role = .unbound → x.ledger.outstanding queue + 1 < Word.values32
  holds : role.Holds base x v ks k grip

section Fits

variable (work : AtWork base v session queue .held s x ks)

include work

theorem AtWork.producing {p : Producer} {turn : Nat} (since : base.producers.length ≤ k)
    (here : x.producers[k]? = some ⟨p, v.config.overflowMemoryLimit, .bound, turn⟩) :
    Fits base v session queue .held .producer p s x ks k :=
  ⟨work, Stake.noConfusion, fun _ => Role.noConfusion, since, turn, here⟩

theorem AtWork.reading {c : Consumer} {turn : Nat} (apart : k ∉ ks)
    (here : x.consumers[k]? = some ⟨c, none, true, turn⟩) :
    Fits base v session queue .held .consumer c s x ks k :=
  ⟨work, Stake.noConfusion, fun _ => Role.noConfusion, apart, turn, here⟩

theorem AtWork.gone (k : Nat) : Fits base v session queue .held .gone () s x ks k :=
  ⟨work, Stake.noConfusion, fun _ => Role.noConfusion, trivial⟩

end Fits

theorem Fits.refused {consumers : Nat} {cause : Error}
    (fits : Fits base v session queue .none .unbound () s x ks k)
    (refused : s.host.acquire v session queue consumers = (host, .error cause)) :
    (x.memory.acquire x.geometry (s.host.liveness v) v.config.raceRetryLimit session queue
        consumers).2 = .error cause ∧
      Fits base v session queue .none .unbound () ⟨host, s.readers⟩ x ks k := by
  obtain ⟨work, claimable, bindable, holds⟩ := fits
  have split := Prod.ext_iff.mp refused
  simp only [Host.acquire, work.shows.host.memory, work.shows.host.geometry] at split
  obtain ⟨rfl, failed⟩ := split
  have still := Segment.acquire_refused failed
  have shows := work.shows.host.put rfl still rfl
  exact ⟨failed, ⟨work.founded, ⟨shows, work.shows.readers⟩, work.alone, work.claimed⟩, claimable,
    bindable, holds⟩

theorem Fits.granted {consumers : Nat}
    (fits : Fits base v session queue .none .unbound () s x ks k)
    (granted : s.host.acquire v session queue consumers = (host, .ok ())) :
    let move := Move.acquire (s.host.liveness v) session queue consumers
    (x.memory.acquire x.geometry (s.host.liveness v) v.config.raceRetryLimit session queue
        consumers).2 = .ok () ∧ x.Modest move ∧
      Fits base v session queue .held .unbound () ⟨host, s.readers⟩ (x.perform move) ks k := by
  intro move
  obtain ⟨work, claimable, -, -⟩ := fits
  have split := Prod.ext_iff.mp granted
  simp only [Host.acquire, work.shows.host.memory, work.shows.host.geometry] at split
  obtain ⟨rfl, stands⟩ := split
  obtain ⟨claims, producers, consumers, memory⟩ := acquire_granted stands
  have shows := work.shows.host.put rfl memory.symm (perform_geometry x move)
  have outstanding : (x.perform move).ledger.outstanding queue = x.ledger.outstanding queue + 1 := by
    have counted := x.ledger.outstanding_claim session queue queue
    rw [if_pos rfl] at counted
    rw [← counted]
    exact Ledger.outstanding_congr claims (congrArg (·.map ProducerSeat.holding) producers) queue
  have room := claimable rfl
  refine ⟨stands, ?_, ⟨work.founded.perform move, ⟨shows, ?_⟩, ?_, ?_⟩, Stake.noConfusion, ?_,
    trivial⟩
  · show (x.perform move).ledger.outstanding queue < Word.values32
    omega
  · exact work.shows.readers.congr fun n seat _ here => consumers ▸ here
  · exact work.alone.claim claims producers
  · exact fun _ => claims ▸ List.mem_cons_self
  · intro _ _
    omega

section Bind

variable {consumerNodes distribution : List NodeId}
  (fits : Fits base v session queue .held .unbound () s x ks k)

include fits

theorem Fits.binds {bound : Except Error Binding}
    (binds : s.host.bind v session queue consumerNodes distribution = (host, bound)) :
    let move := Move.bind (s.host.liveness v) session queue consumerNodes distribution
      v.config.overflowMemoryLimit
    (x.memory.bind x.geometry (s.host.liveness v) session queue consumerNodes distribution).2 =
        bound ∧ host.Shows v (x.perform move) := by
  intro move
  have split := Prod.ext_iff.mp binds
  simp only [Host.bind, fits.work.shows.host.memory, fits.work.shows.host.geometry] at split
  obtain ⟨rfl, same⟩ := split
  exact ⟨same, fits.work.shows.host.put rfl (bind_others ..).2.symm (perform_geometry x move)⟩

theorem Fits.unbound {cause : Error}
    (failed : s.host.bind v session queue consumerNodes distribution = (host, .error cause)) :
    let move := Move.bind (s.host.liveness v) session queue consumerNodes distribution
      v.config.overflowMemoryLimit
    x.Modest move ∧
      Fits base v session queue .held .unbound () ⟨host, s.readers⟩ (x.perform move) ks k := by
  intro move
  obtain ⟨fails, shows⟩ := fits.binds failed
  obtain ⟨work, -, bindable, -⟩ := fits
  have claims := (bind_others x (s.host.liveness v) session queue consumerNodes distribution
    v.config.overflowMemoryLimit).1
  obtain ⟨producers, consumers⟩ := bind_failing fails v.config.overflowMemoryLimit
  have same : (x.perform move).ledger.outstanding queue = x.ledger.outstanding queue :=
    Ledger.outstanding_congr claims (congrArg (·.map ProducerSeat.holding) producers) queue
  have room := bindable rfl rfl
  refine ⟨?_, ⟨work.founded.perform move, ⟨shows, ?_⟩, work.alone.congr claims producers, ?_⟩,
    Stake.noConfusion, ?_, trivial⟩
  · show (x.perform move).ledger.outstanding queue < Word.values32
    omega
  · exact work.shows.readers.congr fun n seat _ here => consumers ▸ here
  · exact fun held => claims ▸ work.claimed held
  · intro _ _
    omega

theorem Fits.producing {p : Producer} (since : base.producers.length ≤ x.producers.length)
    (bound : s.host.bind v session queue consumerNodes distribution = (host, .ok (.producer p))) :
    let move := Move.bind (s.host.liveness v) session queue consumerNodes distribution
      v.config.overflowMemoryLimit
    x.Modest move ∧
      Fits base v session queue .held .producer p ⟨host, s.readers⟩ (x.perform move) ks
        x.producers.length := by
  intro move
  obtain ⟨binds, shows⟩ := fits.binds bound
  obtain ⟨work, -, bindable, -⟩ := fits
  have claims := (bind_others x (s.host.liveness v) session queue consumerNodes distribution
    v.config.overflowMemoryLimit).1
  obtain ⟨producers, consumers⟩ := bind_producing binds v.config.overflowMemoryLimit
  let seat : ProducerSeat := ⟨p, v.config.overflowMemoryLimit, .bound, x.turn p.handle.entry⟩
  have more : (x.perform move).ledger.outstanding queue ≤ x.ledger.outstanding queue + 1 := by
    have listed : (x.perform move).ledger.producers = x.ledger.producers ++ [seat.holding] :=
      (congrArg (·.map ProducerSeat.holding) producers).trans List.map_append
    have same : (x.perform move).ledger.outstanding queue =
        { x.ledger with producers := x.ledger.producers ++ [seat.holding] }.outstanding queue :=
      Ledger.outstanding_congr claims listed queue
    have counted := x.ledger.outstanding_bind seat.holding rfl queue
    rw [← same] at counted
    split at counted
    · exact Nat.le_of_eq counted
    · exact Nat.le_succ_of_le (Nat.le_of_eq counted)
  have mine : p.session = session := by
    rcases x.memory.bind_cases x.geometry (s.host.liveness v) session queue consumerNodes
      distribution with
      ⟨t, cause, -, made⟩ | ⟨i, q, d, -, -, -, own, made⟩ | ⟨i, t, c, -, -, -, -, made⟩
    · rw [made] at binds
      cases binds
    · rw [made] at binds
      cases binds
      exact own
    · rw [made] at binds
      cases binds
  have room := bindable rfl rfl
  have there : (x.perform move).producers[x.producers.length]? =
      some ⟨p, v.config.overflowMemoryLimit, .bound, x.turn p.handle.entry⟩ := by
    rw [show (x.perform move).producers = _ from producers, List.getElem?_concat_length]
  refine ⟨?_, AtWork.producing ⟨work.founded.perform move, ⟨shows, ?_⟩, ?_, ?_⟩ since there⟩
  · show (x.perform move).ledger.outstanding queue < Word.values32
    omega
  · exact work.shows.readers.congr fun n seat _ here => consumers ▸ here
  · exact work.alone.bind claims producers mine
  · exact fun held => claims ▸ work.claimed held

theorem Fits.reading {c : Consumer}
    (bound : s.host.bind v session queue consumerNodes distribution = (host, .ok (.consumer c))) :
    let move := Move.bind (s.host.liveness v) session queue consumerNodes distribution
      v.config.overflowMemoryLimit
    x.Modest move ∧
      Fits base v session queue .held .consumer c ⟨host, s.readers⟩ (x.perform move) ks
        x.consumers.length := by
  intro move
  obtain ⟨binds, shows⟩ := fits.binds bound
  obtain ⟨work, -, bindable, -⟩ := fits
  have claims := (bind_others x (s.host.liveness v) session queue consumerNodes distribution
    v.config.overflowMemoryLimit).1
  obtain ⟨producers, consumers⟩ := bind_reading binds v.config.overflowMemoryLimit
  have same : (x.perform move).ledger.outstanding queue = x.ledger.outstanding queue :=
    Ledger.outstanding_congr claims (congrArg (·.map ProducerSeat.holding) producers) queue
  have apart : x.consumers.length ∉ ks := fun member =>
    Nat.lt_irrefl _ (work.shows.readers.lt member)
  have room := bindable rfl rfl
  have there : (x.perform move).consumers[x.consumers.length]? =
      some ⟨c, none, true, x.turn c.handle.entry⟩ := by
    rw [show (x.perform move).consumers = _ from consumers, List.getElem?_concat_length]
  refine ⟨?_, AtWork.reading ⟨work.founded.perform move, ⟨shows, ?_⟩, ?_, ?_⟩ apart there⟩
  · show (x.perform move).ledger.outstanding queue < Word.values32
    omega
  · refine work.shows.readers.congr fun n seat member here => ?_
    rw [show (x.perform move).consumers = _ from consumers,
      List.getElem?_append_left (work.shows.readers.lt member)]
    exact here
  · exact work.alone.congr claims producers
  · exact fun held => claims ▸ work.claimed held

end Bind

section Release

variable {grip : role.Grip} (fits : Fits base v session queue .held role grip s x ks k)

include fits

theorem Fits.kept {cause : Error} (failed : s.host.release v session queue = (host, .error cause)) :
    (x.memory.release x.geometry (s.host.liveness v) session queue).2 = .error cause ∧
      Fits base v session queue .kept role grip ⟨host, s.readers⟩ x ks k := by
  obtain ⟨work, -, -, holds⟩ := fits
  have split := Prod.ext_iff.mp failed
  simp only [Host.release, work.shows.host.memory, work.shows.host.geometry] at split
  obtain ⟨rfl, fails⟩ := split
  have still : (x.memory.release x.geometry (s.host.liveness v) session queue).1 = x.memory := by
    rcases x.memory.release_cases x.geometry (s.host.liveness v) session queue with
      ⟨reason, made⟩ | ⟨-, made⟩ | ⟨i, t, -, -, made⟩
    · rw [made]
    · rw [made]
    · rw [made] at fails
      cases fails
  have shows := work.shows.host.put rfl still rfl
  exact ⟨fails, ⟨work.founded, ⟨shows, work.shows.readers⟩, work.alone, Stake.noConfusion⟩,
    Stake.noConfusion, Stake.noConfusion, holds⟩

theorem Fits.given (gives : s.host.release v session queue = (host, .ok ())) :
    let move := Move.release (s.host.liveness v) session queue
    (x.memory.release x.geometry (s.host.liveness v) session queue).2 = .ok () ∧ x.Modest move ∧
      Fits base v session queue .returned role grip ⟨host, s.readers⟩ (x.perform move) ks k := by
  intro move
  obtain ⟨work, -, -, holds⟩ := fits
  have split := Prod.ext_iff.mp gives
  simp only [Host.release, work.shows.host.memory, work.shows.host.geometry] at split
  obtain ⟨rfl, given⟩ := split
  obtain ⟨claims, producers, consumers, memory⟩ := release_given given
  have shows := work.shows.host.put rfl memory.symm (perform_geometry x move)
  refine ⟨given, work.claimed rfl, ⟨work.founded.perform move, ⟨shows, ?_⟩, ?_, Stake.noConfusion⟩,
    Stake.noConfusion, Stake.noConfusion, ?_⟩
  · exact work.shows.readers.congr fun n seat _ here => consumers ▸ here
  · exact work.alone.giveUp claims producers
  · cases role with
    | producer => exact ⟨holds.1, producers ▸ holds.2⟩
    | consumer => exact ⟨holds.1, consumers ▸ holds.2⟩
    | unbound => trivial
    | gone => trivial

end Release

theorem Fits.drop {c : Consumer} (fits : Fits base v session queue stake .consumer c s x ks k) :
    Fits base v session queue stake .gone () (s.dropConsumer v c) (x.consume k .drop) ks k := by
  obtain ⟨work, claimable, -, apart, turn, here⟩ := fits
  have kept := consume_apart x k .drop
  have same : (x.consume k .drop).ledger.outstanding queue = x.ledger.outstanding queue :=
    Ledger.outstanding_congr kept.claims (congrArg (·.map ProducerSeat.holding) kept.producers) queue
  have shows : (s.host.setQueue v c.handle (c.drop (s.host.queue v c.handle))).Shows v
      (x.consume k .drop) := by
    rw [work.shows.host.queue rfl]
    exact work.shows.host.putQueue rfl (consume_drop here) kept.geometry
  refine ⟨work.consume apart .drop shows, fun none => ?_, fun _ => Role.noConfusion, trivial⟩
  rw [same]
  exact claimable none

end AtWork

namespace Command

/-- The command would wait for ever. -/
def Outcome.IsStuck (outcome : Outcome) : Prop := outcome.failure = some .stuck

namespace Script

variable {base x y : Commons} {v : View} {session : Session} {queue : String} {s : Site}
  {ks : List Nat} {k : Nat}

/-- Wherever an operation would wait for ever, the script ends as stuck. Unbinding as failed waits
for nobody. -/
def Admits {stake : Stake} {role : Role} : Script stake role → Prop
  | .done .. => True
  | .acquire _ refused granted => (∀ cause, (refused cause).Admits) ∧ granted.Admits
  | .bind _ _ refused producing reading =>
    (∀ cause, (refused cause).Admits) ∧ (∀ targets, (producing targets).Admits) ∧ reading.Admits
  | .write _ _ next => ∀ result, (next result).Admits
  | .drain _ next =>
    (next none).Ends (fun _ _ outcome => outcome.IsStuck) ∧ ∀ result, (next (some result)).Admits
  | .pause next => next.Admits
  | .unbind failed next =>
    (failed = false → (next none).Ends fun _ _ outcome => outcome.IsStuck) ∧
      ∀ result, (next (some result)).Admits
  | .read next =>
    (next none).Ends (fun _ _ outcome => outcome.IsStuck) ∧ ∀ result, (next (some result)).Admits
  | .drop next => next.Admits
  | .release refused given => (∀ cause, (refused cause).Admits) ∧ given.Admits

/-- What is true of the outcome wherever a script ends is true of what a site made of it. -/
theorem perform_endsIn {Q : Outcome → Prop} {stake : Stake} {role : Role}
    (script : Script stake role) :
    ∀ (s : Site) (grip : role.Grip), script.Ends (fun _ _ outcome => Q outcome) →
      Q (script.perform v session queue s grip).2 := by
  induction script with
  | done _ outcome => exact fun s grip all => all
  | acquire consumers refused granted ihRefused ihGranted =>
    intro s grip all
    rcases acquired : s.host.acquire v session queue consumers with ⟨host, cause | _⟩
    · simp only [perform, acquired]
      exact ihRefused cause _ () (all.1 cause)
    · simp only [perform, acquired]
      exact ihGranted _ () all.2
  | bind consumers distribution refused producing reading ihRefused ihProducing ihReading =>
    intro s grip all
    rcases bound : s.host.bind v session queue consumers distribution with ⟨host, cause | p | c⟩
    · simp only [perform, bound]
      exact ihRefused cause _ () (all.1 cause)
    · simp only [perform, bound]
      exact ihProducing _ _ p (all.2.1 _)
    · simp only [perform, bound]
      exact ihReading _ c all.2.2
  | write slot record next ih =>
    intro s p all
    simp only [perform]
    exact ih _ _ _ (all _)
  | drain timeoutMs next ih =>
    intro s p all
    simp only [perform]
    exact ih _ _ _ (all _)
  | pause next ih => exact fun s grip all => ih _ grip all
  | unbind failed next ih =>
    intro s p all
    simp only [perform]
    exact ih _ _ () (all _)
  | read next ih =>
    intro s c all
    simp only [perform]
    exact ih _ _ _ (all _)
  | drop next ih => exact fun s grip all => ih _ () all
  | release refused given ihRefused ihGiven =>
    intro s grip all
    rcases released : s.host.release v session queue with ⟨host, cause | _⟩
    · simp only [perform, released]
      exact ihRefused cause _ grip (all.1 cause)
    · simp only [perform, released]
      exact ihGiven _ grip all.2

/-- What a site made of a script is a way through it, in which nobody moved but the process and
readers. -/
def Performs (base : Commons) (v : View) (session : Session) (queue : String) {stake : Stake}
    {role : Role} (script : Script stake role) (k : Nat) (x : Commons) (after : Site × Outcome) :
    Prop :=
  ∃ ending y ls, script.Completes session queue k x ending y ∧ ending.outcome = after.2 ∧
    after.1.Shows v y ls ∧ base.Alone y session

section Performs

variable {stake stake' : Stake} {role role' : Role} {script : Script stake role}
  {before : Script stake' role'} {n : Nat} {after : Site × Outcome}

theorem Performs.imp (performs : script.Performs base v session queue k y after)
    (way : ∀ ending z, script.Completes session queue k y ending z →
      before.Completes session queue n x ending z) :
    before.Performs base v session queue n x after := by
  obtain ⟨ending, z, ls, completes, rest⟩ := performs
  exact ⟨ending, z, ls, way ending z completes, rest⟩

theorem Performs.still (performs : script.Performs base v session queue k x after)
    (way : ∀ moves ending, Course session queue script k x moves ending →
      Course session queue before n x moves ending) :
    before.Performs base v session queue n x after :=
  performs.imp fun ending _ ⟨moves, course, along, reached⟩ =>
    ⟨moves, way moves ending course, along, reached⟩

theorem Performs.move {move : Move}
    (performs : script.Performs base v session queue k (x.perform move) after)
    (modest : x.Modest move)
    (way : ∀ moves ending, Course session queue script k (x.perform move) moves ending →
      Course session queue before n x (move :: moves) ending) :
    before.Performs base v session queue n x after :=
  performs.imp fun ending _ done =>
    completes_move move done modest fun moves => way moves ending

/-- An operation at which only records were moved, and readers got on. -/
theorem Performs.tends (performs : script.Performs base v session queue k y after)
    (leads : x.Leads (Move.Tends role' k ks) y) (apart : role' = .consumer → k ∉ ks)
    (way : ∀ moves ending, Course session queue script k y moves ending →
      Course session queue before k y moves ending) :
    before.Performs base v session queue k x after :=
  (performs.still way).imp fun _ _ done => completes_tends leads apart done

end Performs

/-- A site goes through a script on one of its courses, unless it is stuck. -/
theorem perform_performs {stake : Stake} {role : Role} (script : Script stake role) :
    ∀ {grip : role.Grip} {s : Site} {x : Commons} {ks : List Nat} {k : Nat},
      Fits base v session queue stake role grip s x ks k → script.Admits →
      ¬ (script.perform v session queue s grip).2.IsStuck →
      script.Performs base v session queue k x (script.perform v session queue s grip) := by
  induction script with
  | done free outcome =>
    intro grip s x ks k fits _ _
    exact ⟨⟨_, _, outcome⟩, x, ks, ⟨[], .done free outcome, trivial, rfl⟩, rfl, fits.work.shows,
      fits.work.alone⟩
  | acquire consumers refused granted ihRefused ihGranted =>
    intro grip s x ks k fits admits back
    rcases acquired : s.host.acquire v session queue consumers with ⟨host, cause | _⟩
    · simp only [perform, acquired] at back ⊢
      obtain ⟨failed, fits⟩ := fits.refused acquired
      exact (ihRefused cause fits (admits.1 cause) back).still fun _ _ => .refused failed
    · simp only [perform, acquired] at back ⊢
      obtain ⟨stands, modest, fits⟩ := fits.granted acquired
      exact (ihGranted fits admits.2 back).move modest fun _ _ => .granted stands
  | bind consumers distribution refused producing reading ihRefused ihProducing ihReading =>
    intro grip s x ks k fits admits back
    rcases bound : s.host.bind v session queue consumers distribution with ⟨host, cause | p | c⟩
    · simp only [perform, bound] at back ⊢
      have fails := (fits.binds bound).1
      obtain ⟨modest, fits⟩ := fits.unbound bound
      exact (ihRefused cause fits (admits.1 cause) back).move modest fun _ _ => .unbound fails
    · simp only [perform, bound] at back ⊢
      have binds := (fits.binds bound).1
      obtain ⟨modest, fits⟩ := fits.producing fits.work.alone.length_le bound
      exact (ihProducing _ fits (admits.2.1 _) back).move modest fun _ _ => .producing binds
    · simp only [perform, bound] at back ⊢
      have binds := (fits.binds bound).1
      obtain ⟨modest, fits⟩ := fits.reading bound
      exact (ihReading fits admits.2.2 back).move modest fun _ _ => .reading binds
  | write slot record next ih =>
    intro p s x ks k fits admits back
    obtain ⟨since, turn, here⟩ := fits.holds
    rcases wrote : Producer.write p v.config.overflowMemoryLimit (s.host.queue v p.handle) slot
      record with ⟨d, q, result⟩
    have made : ProducerSeat.call p v.config.overflowMemoryLimit (s.host.queue v p.handle)
        (.write slot record) = (d, q) := by
      simp only [ProducerSeat.call, wrote]
    simp only [perform, wrote] at back ⊢
    obtain ⟨y, ls, leads, -, work, here⟩ := fits.work.call since here _ made
    have fits := work.producing since here
    have rest := ih result fits (admits result) back
    exact rest.tends leads Role.noConfusion fun _ _ => .wrote result
  | drain timeoutMs next ih =>
    intro p s x ks k fits admits back
    obtain ⟨since, turn, here⟩ := fits.holds
    have drains := drainFor_works fits.work since here timeoutMs Site.patience
    rcases drained : s.drain v p timeoutMs with ⟨t, d, result⟩
    rw [show s.drainFor v p timeoutMs Site.patience = _ from drained] at drains
    obtain ⟨y, ls, leads, -, work, here⟩ := drains
    simp only [perform, drained] at back ⊢
    cases result with
    | none => exact absurd (perform_endsIn _ t d admits.1) back
    | some result =>
      have fits := work.producing since here
      have rest := ih (some result) fits (admits.2 result) back
      exact rest.tends leads Role.noConfusion fun _ _ => .drained result
  | pause next ih =>
    intro p s x ks k fits admits back
    obtain ⟨since, turn, here⟩ := fits.holds
    obtain ⟨y, ls, leads, -, work, here⟩ :
        Works base v session queue .held .producer k x ks s.settle
          fun y => y.producers[k]? = some ⟨p, v.config.overflowMemoryLimit, .bound, turn⟩ :=
      fits.work.settles fits.work.shows.settle fun y kept => kept.producers ▸ here
    have rest := ih (work.producing since here) admits back
    exact rest.tends leads Role.noConfusion fun _ _ => .paused
  | unbind failed next ih =>
    intro p s x ks k fits admits back
    obtain ⟨since, turn, here⟩ := fits.holds
    rcases unbound : s.unbind v p failed with ⟨t, _ | result⟩
    · simp only [perform, unbound] at back ⊢
      cases failed with
      | true =>
        obtain ⟨result, returns⟩ := unbind_returns fits.work here
        rw [unbound] at returns
        cases returns
      | false => exact absurd (perform_endsIn _ t () (admits.1 rfl)) back
    · simp only [perform, unbound] at back ⊢
      obtain ⟨y, ls, work, rest⟩ := unbind_unbinds fits.work since here unbound
      have later := ih (some result) (work.gone k) (admits.2 result) back
      exact later.imp rest
  | read next ih =>
    intro c s x ks k fits admits back
    obtain ⟨apart, turn, here⟩ := fits.holds
    rcases got : s.read v c true with ⟨t, d, _ | result⟩
    · simp only [perform, got] at back ⊢
      exact absurd (perform_endsIn _ t d admits.1) back
    · simp only [perform, got] at back ⊢
      have stands : (ConsumerSeat.mk c none true turn).IsAt c .row := ⟨rfl, rfl, .inr ⟨rfl, rfl⟩⟩
      obtain ⟨y, ls, leads, fewer, work, turn, here⟩ :=
        readFor_works fits.work apart here stands _ got
      have fits := work.reading (fun member => apart (fewer member)) here
      have rest := ih (some result) fits (admits.2 result) back
      exact rest.tends leads (fun _ => apart) fun _ _ => .read result
  | drop next ih =>
    intro c s x ks k fits admits back
    simp only [perform] at back ⊢
    have rest := ih fits.drop admits back
    have drops : x.Modest (.consume k .drop) := trivial
    exact Performs.move rest drops fun _ _ => .drop
  | release refused given ihRefused ihGiven =>
    intro grip s x ks k fits admits back
    rcases released : s.host.release v session queue with ⟨host, cause | _⟩
    · simp only [perform, released] at back ⊢
      obtain ⟨fails, fits⟩ := fits.kept released
      exact (ihRefused cause fits (admits.1 cause) back).still fun _ _ => .kept fails
    · simp only [perform, released] at back ⊢
      obtain ⟨gives, modest, fits⟩ := fits.given released
      exact (ihGiven fits admits.2 back).move modest fun _ _ => .given gives

/-! The commands admit where they would wait for ever. -/

theorem close_admits (failed : Bool) (outcome : Outcome) : (close failed outcome).Admits := by
  refine ⟨fun _ => rfl, fun result => ?_⟩
  cases result with
  | error cause => trivial
  | ok _ => exact ⟨fun _ => trivial, trivial⟩

theorem quit_admits (failure : Failure) : (quit failure).Admits :=
  ⟨fun waits => absurd waits.symm Bool.false_ne_true, fun _ => trivial⟩

theorem drainAll_admits (timeoutMs written rounds : Nat) :
    (drainAll timeoutMs written rounds).Admits := by
  induction rounds with
  | zero => exact quit_admits .stuck
  | succ rounds ih =>
    refine ⟨fun _ => rfl, fun result => ?_⟩
    match result with
    | .error cause => exact quit_admits (.error cause)
    | .ok 0 => exact close_admits ..
    | .ok (pending + 1) => exact ih

theorem writeLines_admits (targets : List Nat) (timeoutMs written : Nat)
    (lines : List (List UInt8)) : (writeLines targets timeoutMs written lines).Admits := by
  induction lines generalizing written with
  | nil => exact drainAll_admits ..
  | cons line rest ih =>
    rw [writeLines]
    split
    · exact quit_admits .badInput
    · intro result
      cases result with
      | error cause => exact quit_admits (.error cause)
      | ok _ => exact ih (written + 1)

theorem readRecords_admits (reads : Nat) (output : List UInt8) (records : Nat) :
    (readRecords reads output records).Admits := by
  induction reads generalizing output records with
  | zero => trivial
  | succ reads ih =>
    refine ⟨rfl, fun result => ?_⟩
    match result with
    | .error cause => trivial
    | .ok (.record payload) => exact ih ..
    | .ok .eof => exact ⟨fun _ => trivial, trivial⟩
    | .ok .wouldBlock => exact ih ..

theorem produce_admits (session : Session) (queue : String) (consumers : List NodeId)
    (drainTimeoutMs : Nat) (input : List UInt8) :
    (produce session queue consumers drainTimeoutMs input).Admits := by
  refine ⟨fun _ => trivial, fun _ => trivial, fun targets => ?_, fun _ => trivial, trivial⟩
  dsimp only
  split
  · exact close_admits ..
  · exact writeLines_admits ..

theorem consume_admits (queue : String) (consumers : Nat) : (consume queue consumers).Admits :=
  ⟨fun _ => trivial, fun _ => ⟨fun _ => trivial, trivial⟩, fun _ => close_admits ..,
    readRecords_admits ..⟩

/-- A script that has a stake keeps it or comes to a worse one, but does not forget it. -/
theorem ends_staked {stake : Stake} {role : Role} (script : Script stake role) :
    stake ≠ .none → script.Ends fun stake _ _ => stake ≠ .none := by
  induction script with
  | done free outcome => exact id
  | acquire consumers refused granted => exact fun staked => absurd rfl staked
  | bind consumers distribution refused producing reading ihRefused ihProducing ihReading =>
    exact fun staked => ⟨fun cause => ihRefused cause staked,
      fun targets => ihProducing targets staked, ihReading staked⟩
  | write slot record next ih => exact fun staked result => ih result staked
  | drain timeoutMs next ih => exact fun staked result => ih result staked
  | pause next ih => exact ih
  | unbind failed next ih => exact fun staked result => ih result staked
  | read next ih => exact fun staked result => ih result staked
  | drop next ih => exact ih
  | release refused given ihRefused ihGiven =>
    exact fun _ => ⟨fun cause => ihRefused cause Stake.noConfusion, ihGiven Stake.noConfusion⟩

/-- What a command that began as `script` on a site that showed `x` has left behind: it went one of
the script's courses, with a stake if its claim was granted, and what is outstanding is what was
before, but for that claim if it is still owed. -/
def Returns (session : Session) (queue : String) (script : Script .none .unbound) (v : View)
    (x : Commons) (claimed : Except Error Unit) (after : Site × Outcome) : Prop :=
  ∃ k moves ending ls, Course session queue script k x moves ending ∧
    ending.outcome = after.2 ∧ (ending.stake ≠ .none ↔ claimed = .ok ()) ∧
    after.1.Shows v (x.run moves) ls ∧
    (x.run moves).Accounts x.ledger.outstanding queue ending.stake.isOwed

theorem returns_of_course {script : Script .none .unbound} {moves : List Move} {ending : Ending}
    {after : Site × Outcome} (founded : x.Founded) (balanced : x.ledger.withoutConsumers.Balanced)
    (course : Course session queue script k x moves ending) (along : Along Modest x moves)
    (alone : x.Alone (x.run moves) session) {claimed : Except Error Unit}
    (staked : ending.stake ≠ .none ↔ claimed = .ok ()) (shows : after.1.Shows v (x.run moves) ks)
    (same : ending.outcome = after.2) : Returns session queue script v x claimed after := by
  obtain ⟨free, n, stands⟩ := course.stands founded (.start x.ledger session queue k)
  have accounts := accounts (modest_run founded balanced moves along) stands free
  rw [funext alone.elsewhere] at accounts
  exact ⟨k, moves, ending, ks, course, same, staked, shows, accounts⟩

/-- A command claims its queue first. If that fails it ends, without a stake. -/
theorem acquire_returns {consumers : Nat} {refused : Error → Outcome}
    {granted : Script .held .unbound} (founded : x.Founded)
    (balanced : x.ledger.withoutConsumers.Balanced) (shows : s.Shows v x ks)
    (room : x.ledger.outstanding queue + 2 < Word.values32) (admits : granted.Admits)
    (back : ¬ ((acquire consumers (fun cause => .done rfl (refused cause)) granted).perform v session
      queue s ()).2.IsStuck) :
    Returns session queue (.acquire consumers (fun cause => .done rfl (refused cause)) granted) v x
      (s.host.acquire v session queue consumers).2
      ((acquire consumers (fun cause => .done rfl (refused cause)) granted).perform v session queue
        s ()) := by
  have fits : Fits x v session queue .none .unbound () s x ks 0 :=
    ⟨⟨founded, shows, .refl x session, Stake.noConfusion⟩, fun _ => room, Stake.noConfusion, trivial⟩
  rcases acquired : s.host.acquire v session queue consumers with ⟨host, cause | _⟩
  · simp only [perform, acquired] at back ⊢
    obtain ⟨failed, fits⟩ := fits.refused acquired
    have course : Course session queue
        (.acquire consumers (fun cause => .done rfl (refused cause)) granted) 0 x []
          ⟨.none, .unbound, refused cause⟩ := .refused failed (.done rfl _)
    exact returns_of_course founded balanced course trivial fits.work.alone
      (iff_of_false (absurd rfl) fun other => by cases other) fits.work.shows rfl
  · simp only [perform, acquired] at back ⊢
    obtain ⟨stands, modest, fits⟩ := fits.granted acquired
    obtain ⟨ending, y, ls, ⟨moves, course, along, rfl⟩, same, shown, alone⟩ :=
      perform_performs granted fits admits back
    have staked := course.endsIn (granted.ends_staked Stake.noConfusion)
    have whole : Course session queue
        (.acquire consumers (fun cause => .done rfl (refused cause)) granted) 0 x
          (.acquire (s.host.liveness v) session queue consumers :: moves) ending :=
      .granted stands course
    exact returns_of_course founded balanced whole ⟨modest, along⟩ alone (iff_of_true staked rfl)
      shown same

end Script

/-- The commands leave nothing behind but claims they had not come to give up. In every run of
sessions that give up no more claims than they made, and in whatever way a process goes through a
script from any point on while others move as they like: once it is through, all the references it
took have been dropped again but for a claim that its stake says it still has. Of the command that
sends it does have one exactly if it made it and comes to no end of its own: its operations fail, or
the input is no text. Of the command that reads it does exactly if it was bound and then comes to no
end of its own, or if giving the claim up failed. And a command that returns on a site went such a
way, with no claim made or given up meanwhile but its own. -/
theorem claim_left_iff (c : Config) (creator : ProcessId) (before : List Move)
    (modest : Along Modest (start c creator) before) (session : Session) (queue : String) :
    let x := (start c creator).run before
    (∀ (script : Script .none .unbound) (k : Nat) (moves : List Move) (ending : Ending),
        Course session queue script k x moves ending → Along Modest x moves →
          (x.run moves).Accounts (x.ledger.elsewhere (x.run moves).ledger session) queue
            ending.stake.isOwed) ∧
      (∀ consumers drainTimeoutMs input k moves ending,
        Course session queue (Script.produce session queue consumers drainTimeoutMs input) k x moves
            ending →
          (ending.stake.isOwed = true ↔
            ending.stake ≠ .none ∧ ending.outcome.isConcluded = false)) ∧
      (∀ consumers k moves ending,
        Course session queue (Script.consume queue consumers) k x moves ending →
          (ending.stake.isOwed = true ↔
            ending.stake = .kept ∨
              ending.role = .gone ∧ ending.outcome.isConcluded = false)) ∧
      ∀ (s : Site) (v : View) (ks : List Nat), s.Shows v x ks →
        x.ledger.outstanding queue + 2 < Word.values32 →
          (∀ consumers drainTimeoutMs input,
            ¬ (Command.produce s v session queue consumers drainTimeoutMs input).2.IsStuck →
              Script.Returns session queue
                (Script.produce session queue consumers drainTimeoutMs input) v x
                (s.host.acquire v session queue consumers.length).2
                (Command.produce s v session queue consumers drainTimeoutMs input)) ∧
          ∀ consumers, ¬ (Command.consume s v session queue consumers).2.IsStuck →
            Script.Returns session queue (Script.consume queue consumers) v x
              (s.host.acquire v session queue consumers).2
              (Command.consume s v session queue consumers) := by
  intro x
  have vacant := start_vacant c creator
  have empty : (start c creator).ledger.withoutConsumers.Balanced :=
    ⟨rfl, fun i live => absurd live (vacant i), fun i live => absurd live (vacant i),
      fun name some => absurd some (Nat.lt_irrefl 0), nofun, nofun⟩
  have founded : x.Founded := (Founded.start c creator).run before
  have balanced : x.ledger.withoutConsumers.Balanced :=
    modest_run (Founded.start c creator) empty before modest
  refine ⟨?_, ?_, ?_, ?_⟩
  · intro script k moves ending course along
    obtain ⟨free, n, stands⟩ := course.stands founded (.start x.ledger session queue k)
    exact accounts (modest_run founded balanced moves along) stands free
  · intro consumers drainTimeoutMs input k moves ending course
    have owes := course.endsIn (Script.produce_ends session queue consumers drainTimeoutMs input)
    refine ⟨fun owed => ?_, fun left => (owes left.1).mpr left.2⟩
    have staked : ending.stake ≠ .none := fun none => by
      rw [none] at owed
      cases owed
    exact ⟨staked, (owes staked).mp owed⟩
  · intro consumers k moves ending course
    exact course.endsIn (Script.consume_ends queue consumers)
  · intro s v ks shows room
    refine ⟨fun consumers drainTimeoutMs input back => ?_, fun consumers back => ?_⟩
    · rw [← Script.perform_produce] at back ⊢
      have admits := Script.produce_admits session queue consumers drainTimeoutMs input
      exact Script.acquire_returns founded balanced shows room admits.2 back
    · rw [← Script.perform_consume] at back ⊢
      have admits := Script.consume_admits queue consumers
      exact Script.acquire_returns founded balanced shows room admits.2 back

def bothBound : List Move :=
  [.acquire undisturbed ⟨100, 0⟩ "rows" 1, .acquire undisturbed ⟨101, 1⟩ "rows" 1,
    .bind undisturbed ⟨100, 0⟩ "rows" [1] [0, 1] 64,
    .bind undisturbed ⟨101, 1⟩ "rows" [1] [0, 1] 64]

/-- A host on which they are, and the view that all of its processes have. -/
def workingSite : Site :=
  ⟨⟨[100, 101, 102], #[((start narrow 1).run bothBound).memory], ⟨[], []⟩⟩, []⟩

def workingView : View := ⟨0, narrow, (start narrow 1).geometry, 1, false, false⟩

/-- A second process of the consumer's node is to send, and finds the slot taken. -/
theorem claim_left_iff_slotTaken :
    let x := (start narrow 1).run bothBound
    let ended := Command.produce workingSite workingView ⟨102, 1⟩ "rows" [1] 1000 []
    Along Modest (start narrow 1) bothBound ∧ workingSite.Shows workingView x [] ∧
      x.ledger.outstanding "rows" = 3 ∧
      ((ended.1.host.segment workingView).entries.getD 0 default).references.toNat = 4 := by
  intro x ended
  have modest : Along Modest (start narrow 1) bothBound := by decide +kernel
  have shows : workingSite.Shows workingView x [] := ⟨⟨Nat.one_pos, rfl, rfl⟩, .nil⟩
  have three : x.ledger.outstanding "rows" = 3 := by decide +kernel
  have room : x.ledger.outstanding "rows" + 2 < Word.values32 := by
    rw [three]
    decide
  have failed : ended.2.failure = some (.error (.alreadyBound "rows" 0 101)) := by decide +kernel
  have back : ¬ ended.2.IsStuck := fun stuck => by
    rw [Outcome.IsStuck, failed] at stuck
    cases stuck
  have claimed : (workingSite.host.acquire workingView ⟨102, 1⟩ "rows" 1).2 = .ok () := by
    decide +kernel
  have there : ((ended.1.host.segment workingView).entries.getD 0 default).live = true ∧
      ((ended.1.host.segment workingView).entries.getD 0 default).name = "rows" := by
    decide +kernel
  obtain ⟨-, sending, -, running⟩ := claim_left_iff narrow 1 bothBound modest ⟨102, 1⟩ "rows"
  obtain ⟨k, moves, ending, ls, course, outcome, staked, shown, accounts⟩ :=
    (running workingSite workingView [] shows room).1 [1] 1000 [] back
  have broken : ending.outcome.isConcluded = false := by
    rw [outcome, Outcome.isConcluded]
    rw [show (Command.produce _ _ _ _ _ _ _).2.failure = _ from failed]
  have owed := (sending [1] 1000 [] k moves ending course).mpr ⟨staked.mpr claimed, broken⟩
  have memory : ended.1.host.segment workingView = (x.run moves).memory := shown.host.memory
  rw [memory] at there
  have counted := accounts.counted 0 there.1
  rw [there.2, owed, three] at counted
  exact ⟨modest, shows, three, memory ▸ counted⟩

/-- The command has failed and its process is gone, but the queue has one reference more. -/
theorem failed_command_keeps_claim :
    let ended := Command.produce workingSite workingView ⟨102, 1⟩ "rows" [1] 1000 []
    ended.2.failure = some (.error (.alreadyBound "rows" 0 101)) ∧
      ((workingSite.host.segment workingView).entries.getD 0 default).references = 3 ∧
      ((ended.1.host.segment workingView).entries.getD 0 default).references = 4 := by
  decide +kernel

end Command

end RecordExchange
