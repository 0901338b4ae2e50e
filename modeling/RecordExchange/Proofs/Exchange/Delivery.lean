import RecordExchange.Proofs.Commons.Run
import RecordExchange.Proofs.Exchange.Calm

set_option autoImplicit false

/-!
From the producer's hands into the readers'.

Whatever the parties do and in whatever order they do it, a reader gets the records that were
accepted for its slot, in order, each of them whole and once; it is told of the end of the data when
it got them all; and nobody ever meets a mismatch or an assertion that does not hold. Only a reader
that left a long record behind must not look at what became of it.
-/

namespace RecordExchange

/-- The call ended because what a buffer carries does not continue a record. -/
def Answer.IsMismatch : Answer → Prop
  | .producer (.error (.longRecordMismatch _ _)) => True
  | .reader _ (.error (.longRecordMismatch _ _)) => True
  | _ => False

/-- The call was stopped by an assertion. -/
def Answer.IsStopped : Answer → Prop
  | .reader _ (.error .panicked) => True
  | _ => False

theorem Answer.isStopped_reader (i : Nat) (result : Except Error ReadOutcome) :
    (Answer.reader i result).IsStopped ↔ result = .error .panicked := by
  constructor
  · intro stopped
    unfold IsStopped at stopped
    split at stopped
    · rename_i met
      injection met
    · cases stopped
  · rintro rfl
    trivial

theorem Answer.isMismatch_producer (result : Except Error Unit) :
    (Answer.producer result).IsMismatch ↔
      ∃ expected actual, result = .error (.longRecordMismatch expected actual) := by
  constructor
  · intro mismatch
    unfold IsMismatch at mismatch
    split at mismatch
    · rename_i expected actual met
      injection met with met
      exact ⟨expected, actual, met⟩
    · rename_i met
      cases met
    · cases mismatch
  · rintro ⟨expected, actual, rfl⟩
    trivial

theorem Answer.isMismatch_reader (i : Nat) (result : Except Error ReadOutcome) :
    (Answer.reader i result).IsMismatch ↔
      ∃ expected actual, result = .error (.longRecordMismatch expected actual) := by
  constructor
  · intro mismatch
    unfold IsMismatch at mismatch
    split at mismatch
    · rename_i met
      cases met
    · rename_i expected actual met
      injection met with _ met
      exact ⟨expected, actual, met⟩
    · cases mismatch
  · rintro ⟨expected, actual, rfl⟩
    trivial

namespace Exchange

variable {x : Exchange} {n i : Nat} {action : Action} {port : Port}

/-- A call that the action brings to its end meets no mismatch, no assertion stops it, and if it
reports the end of the data, everything accepted was delivered. -/
def Delivers (x : Exchange) (action : Action) : Prop :=
  ∀ answer, (x.perform action).2 = some answer →
    ¬ answer.IsMismatch ∧ ¬ answer.IsStopped ∧ ∀ i, answer = .reader i (.ok .eof) →
      ((x.perform action).1.ports i).delivered = ((x.perform action).1.ports i).accepted

/-- Every reader got everything so far. -/
def IsWhole (x : Exchange) : Prop := ∀ i, i < x.queue.consumers → (x.ports i).Whole

/-- An action after which a reader looks at no rest leaves it whole. -/
theorem Affects.whole (affects : x.Affects i action port) (sound : x.Sound n)
    (inside : i < x.queue.consumers) (whole : (x.ports i).Whole) (calm : ¬ x.MeetsRest i action) :
    port.Whole := by
  cases affects with
  | spares spared => exact whole
  | accepts record spared =>
    exact ⟨whole.matched, whole.apart, whole.order.trans (List.prefix_append ..)⟩
  | leaves consumer spared => exact ⟨whole.matched, whole.apart, whole.order⟩
  | reads canWait stands looks =>
    obtain ⟨skip, queue, after, skip', queue', follows, accounts, reads⟩ :=
      sound.reads inside canWait stands whole.matched
    rw [read_port]
    apply whole.received stands follows accounts reads
    intro rest
    exact calm ⟨looks.mpr rest.1, rest.2⟩
  | abandons sleeping other spared =>
    rw [Port.ended_of_other _ _ other]
    exact ⟨whole.matched, fun _ => rfl, whole.order⟩

section Answers

theorem delivers_of_silent (silent : (x.perform action).2 = none) : x.Delivers action := by
  intro answer answered
  rw [silent] at answered
  cases answered

/-- A call of the producer that does not come to grief on a chunk. -/
theorem delivers_of_producer {result : Except Error Unit}
    (other : ∀ expected actual, result ≠ .error (.longRecordMismatch expected actual))
    (answered : (x.perform action).2 = some (.producer result)) : x.Delivers action := by
  intro answer same
  rw [answered] at same
  cases same
  refine ⟨?_, id, ?_⟩
  · rw [Answer.isMismatch_producer]
    intro mismatch
    obtain ⟨expected, actual, met⟩ := mismatch
    exact other expected actual met
  · intro i impossible
    cases impossible

theorem delivers_of_done (answered : (x.perform action).2 = some (.producer (.ok ()))) :
    x.Delivers action := by
  apply delivers_of_producer _ answered
  intro expected actual impossible
  cases impossible

theorem delivers_of_failed {cause : Error}
    (other : ∀ expected actual, cause ≠ .longRecordMismatch expected actual)
    (answered : (x.perform action).2 = some (.producer (.error cause))) : x.Delivers action := by
  apply delivers_of_producer _ answered
  intro expected actual same
  cases same
  exact other _ _ rfl

/-- A pass over the outlets does not fail where every reader is in step. -/
theorem Sound.finish_ok (sound : x.Sound n) (whole : x.IsWhole) (keeps : x.stand.keeps = true) :
    ∃ p q pending, x.producer.finish x.queue = (p, q, .ok pending) := by
  cases result : (x.producer.finish x.queue).2.2 with
  | ok pending =>
    exact ⟨_, _, pending, Producer.finish_eq result⟩
  | error cause =>
    obtain ⟨i, inside, failed⟩ := Producer.finish_error result
    obtain ⟨skip, queue, awaits, -, -⟩ := sound.ports i inside (whole i inside).matched
    rw [keeps] at awaits
    by_cases active : (x.producer.outlet x.queue i).lane.slot.status = .active
    · obtain ⟨⟨pending, passed⟩, -, -⟩ := Outlet.finish_active awaits active
      rw [passed] at failed
      cases failed
    · rw [Outlet.finish_closed active] at failed
      cases failed

theorem write_answer (x : Exchange) (i : Nat) (record : Record) :
    (x.write i record).2 =
      some (.producer (x.producer.write x.limit x.queue i record).2.2) := by
  obtain ⟨p, q, result, written⟩ : ∃ p q result,
      x.producer.write x.limit x.queue i record = (p, q, result) := ⟨_, _, _, rfl⟩
  simp only [write, written]
  cases result <;> rfl

/-- A write fails only for a slot that is not there or a record too long. -/
theorem Sound.write_unmatched (sound : x.Sound n) (whole : x.IsWhole) (bound : x.stand = .bound)
    (i : Nat) (record : Record) (expected actual : Nat) :
    (x.producer.write x.limit x.queue i record).2.2 ≠
      .error (.longRecordMismatch expected actual) := by
  have keeps := Stand.keeps_of_bound bound
  by_cases fits : i < x.queue.consumers ∧ record.length ≤ LengthWord.maxLength
  · obtain ⟨inside, short⟩ := fits
    have written : ((x.producer.outlet x.queue i).write x.limit record).2 = .ok () := by
      by_cases active : (x.producer.outlet x.queue i).lane.slot.status = .active
      · obtain ⟨skip, queue, awaits, -, -⟩ := sound.ports i inside (whole i inside).matched
        rw [keeps] at awaits
        exact (Outlet.write_active active awaits x.limit short).1
      · rw [Outlet.write_closed active]
    rw [Producer.write_of_fits x.limit inside short, written]
    intro impossible
    cases impossible
  · obtain ⟨cause, refused, other⟩ := x.producer.write_refused x.limit x.queue fits
    rw [refused]
    intro same
    cases same
    exact other _ _ rfl

theorem Sound.drain_delivers (sound : x.Sound n) (whole : x.IsWhole) (bound : x.stand = .bound) :
    x.Delivers .drain := by
  have keeps := Stand.keeps_of_bound bound
  obtain ⟨p, q, pending, passed⟩ := sound.finish_ok whole keeps
  cases pending with
  | zero =>
    apply delivers_of_done
    simp only [Exchange.perform, bound, Exchange.drain, Producer.drainStep_done passed]
    rfl
  | succ pending =>
    apply delivers_of_silent
    simp only [Exchange.perform, bound, Exchange.drain, Producer.drainStep_pending passed]

section Close

variable {failed : Bool} {live : Liveness} {point next : ClosePoint} {pass : ClosePass}
  {p : Producer} {memory : Segment} {result : Except Error Unit}

theorem close_goesOn (stands : x.stand = .closing failed point)
    (step : x.producer.closeStep x.memory failed live point = (p, memory, .goesOn next)) :
    x.Delivers (.close live) := by
  apply delivers_of_silent
  simp only [perform, stands, close, step]

theorem close_waits (stands : x.stand = .closing failed point)
    (step : x.producer.closeStep x.memory failed live point = (p, memory, .waits pass)) :
    x.Delivers (.close live) := by
  apply delivers_of_silent
  simp only [perform, stands, close, step]

theorem close_answer (stands : x.stand = .closing failed point)
    (step : x.producer.closeStep x.memory failed live point = (p, memory, .ended result)) :
    (x.perform (.close live)).2 = some (.producer result) := by
  simp only [perform, stands, close, step]

end Close

/-- A step of unbinding fails only because the segment's owner died or somebody asked it to. -/
theorem Sound.close_delivers (sound : x.Sound n) (whole : x.IsWhole) {failed : Bool}
    {point : ClosePoint} (stands : x.stand = .closing failed point) (live : Liveness) :
    x.Delivers (.close live) := by
  cases point with
  | run pass =>
    cases pass with
    | flush =>
      have keeps := Stand.keeps_of_flush stands
      obtain ⟨p, q, pending, passed⟩ := sound.finish_ok whole keeps
      cases pending with
      | zero =>
        exact close_goesOn stands (Producer.closeStep_flush_done passed)
      | succ pending =>
        exact close_waits stands (Producer.closeStep_flush_pending passed)
    | sweep =>
      by_cases awaited : (!failed && x.queue.lanes.any Producer.isAwaited) = true
      · exact close_waits stands (Producer.closeStep_sweep_waits awaited)
      · exact close_goesOn stands (Producer.closeStep_sweep_done awaited)
  | woken pass =>
    cases pass with
    | flush => exact close_goesOn stands rfl
    | sweep => exact close_goesOn stands rfl
  | timedOut pass =>
    cases pass with
    | flush => exact close_goesOn stands rfl
    | sweep => exact close_goesOn stands rfl
  | settle =>
    cases checked : live.check with
    | error cause =>
      have step := close_answer stands (Producer.closeStep_settle_failed checked)
      exact delivers_of_failed (Liveness.check_other checked) step
    | ok alive =>
      by_cases running : x.queue.lanes.any Producer.isRunning = true
      · exact close_goesOn stands (Producer.closeStep_settle_running checked running)
      · have step := close_answer stands (Producer.closeStep_settle_over checked running)
        exact delivers_of_done step

theorem read_answer {canWait : Bool} {point : ReadPoint} {result : Except Error ReadOutcome}
    (step : ((x.ports i).consumer.readStep canWait point x.queue).2.2 = .ended result) :
    (x.read i canWait point).2 = some (.reader i result) := by
  simp only [read, step]

theorem read_silent {canWait : Bool} {point next : ReadPoint}
    (step : ((x.ports i).consumer.readStep canWait point x.queue).2.2 = .sleeps next) :
    (x.read i canWait point).2 = none := by
  simp only [read, step]

/-- A step of a read that does not look at a rest. -/
theorem Sound.read_delivers (sound : x.Sound n) (inside : i < x.queue.consumers)
    (whole : (x.ports i).Whole) (canWait : Bool) {point : ReadPoint}
    (stands : (x.ports i).StandsAt point)
    (performed : x.perform action = x.read i canWait point) : x.Delivers action := by
  obtain ⟨skip, queue, after, skip', queue', follows, accounts, reads⟩ :=
    sound.reads inside canWait stands whole.matched
  have unmatched := whole.no_mismatch stands follows reads
  intro answer answered
  rw [performed] at answered ⊢
  cases step : ((x.ports i).consumer.readStep canWait point x.queue).2.2 with
  | sleeps next =>
    rw [read_silent step] at answered
    cases answered
  | ended result =>
    rw [read_answer step] at answered
    rw [step] at reads unmatched
    cases answered
    refine ⟨?_, ?_, ?_⟩
    · rw [Answer.isMismatch_reader]
      intro mismatch
      obtain ⟨expected, actual, rfl⟩ := mismatch
      exact unmatched expected actual rfl
    · rw [Answer.isStopped_reader]
      rintro rfl
      exact reads.settles rfl
    · intro j same
      cases same
      rw [read_port, step]
      cases reads with
      | ends none finished begun nothing =>
        rw [nothing] at accounts
        exact accounts.all whole.order

theorem abandon_delivers {point : ReadPoint} {cause : Error} {live : Liveness}
    (failed : live.check = .error cause)
    (performed : x.perform action = x.abandon i point cause) : x.Delivers action := by
  intro answer answered
  rw [performed] at answered
  cases answered
  refine ⟨?_, ?_, ?_⟩
  · rw [Answer.isMismatch_reader]
    intro mismatch
    obtain ⟨expected, actual, met⟩ := mismatch
    injection met with met
    exact Liveness.check_other failed expected actual met
  · rw [Answer.isStopped_reader]
    intro stopped
    injection stopped with stopped
    rcases Liveness.check_cases failed with same | same
    · exact nomatch stopped.symm.trans same
    · exact nomatch stopped.symm.trans same
  · intro j impossible
    cases impossible

end Answers

/-- Every call answers as it should where every reader is in step. -/
theorem Sound.delivers (sound : x.Sound n) (whole : x.IsWhole) (action : Action) :
    x.Delivers action := by
  cases action with
  | write j record =>
    cases stand : x.stand with
    | bound =>
      have performed : x.perform (.write j record) = x.write j record := by
        simp only [Exchange.perform, stand]
      apply delivers_of_producer (sound.write_unmatched whole stand j record)
      rw [performed]
      exact x.write_answer j record
    | _ => exact delivers_of_silent (by simp only [Exchange.perform, stand])
  | finish =>
    cases stand : x.stand with
    | bound =>
      have keeps := Stand.keeps_of_bound stand
      obtain ⟨p, q, pending, passed⟩ := sound.finish_ok whole keeps
      apply delivers_of_done
      simp only [Exchange.perform, stand, Exchange.finish, passed]
      rfl
    | _ => exact delivers_of_silent (by simp only [Exchange.perform, stand])
  | drain =>
    cases stand : x.stand with
    | bound => exact sound.drain_delivers whole stand
    | _ => exact delivers_of_silent (by simp only [Exchange.perform, stand])
  | waited =>
    cases stand : x.stand <;> exact delivers_of_silent (by simp only [Exchange.perform, stand])
  | reset =>
    cases stand : x.stand with
    | bound =>
      apply delivers_of_done
      simp only [Exchange.perform, stand, Exchange.reset]
    | _ => exact delivers_of_silent (by simp only [Exchange.perform, stand])
  | unbind failed =>
    cases stand : x.stand <;> exact delivers_of_silent (by simp only [Exchange.perform, stand])
  | close live =>
    cases stand : x.stand with
    | closing failed point => exact sound.close_delivers whole stand live
    | _ => exact delivers_of_silent (by simp only [Exchange.perform, stand])
  | wake timely =>
    cases stand : x.stand <;> exact delivers_of_silent (by simp only [Exchange.perform, stand])
  | giveUp live =>
    cases stand : x.stand with
    | asleep failed pass =>
      cases checked : live.check with
      | error cause =>
        apply delivers_of_failed (Liveness.check_other checked)
        simp only [Exchange.perform, stand, checked]
        rfl
      | ok alive => exact delivers_of_silent (by simp only [Exchange.perform, stand, checked])
    | _ => exact delivers_of_silent (by simp only [Exchange.perform, stand])
  | read j canWait =>
    by_cases ready : j < x.queue.consumers ∧ (x.ports j).reading = none
    · apply sound.read_delivers ready.1 (whole j ready.1) canWait (.inl ⟨ready.2, rfl⟩)
      simp only [Exchange.perform, ready, and_self, ↓reduceIte]
    · exact delivers_of_silent (by simp only [Exchange.perform, ready, ↓reduceIte])
  | resume j =>
    cases sleeping : (x.ports j).reading with
    | none => exact delivers_of_silent (by simp only [Exchange.perform, sleeping])
    | some point =>
      by_cases inside : j < x.queue.consumers
      · apply sound.read_delivers inside (whole j inside) true (.inr sleeping)
        simp only [Exchange.perform, sleeping, inside, ↓reduceIte]
      · exact delivers_of_silent (by simp only [Exchange.perform, sleeping, inside, ↓reduceIte])
  | abandon j live =>
    cases sleeping : (x.ports j).reading with
    | none => exact delivers_of_silent (by simp only [Exchange.perform, sleeping])
    | some point =>
      cases checked : live.check with
      | error cause =>
        apply abandon_delivers checked
        simp only [Exchange.perform, sleeping, checked]
        rfl
      | ok alive => exact delivers_of_silent (by simp only [Exchange.perform, sleeping, checked])
  | leave j =>
    apply delivers_of_silent
    simp only [Exchange.perform]
    split <;> rfl

/-- A run in which no reader looks at a rest leaves every reader in step, and answers as it
should. -/
theorem Sound.run_delivers (sound : x.Sound n) (whole : x.IsWhole) (actions : List Action)
    (calm : x.Along (fun y action => ∀ i, ¬ y.MeetsRest i action) actions) :
    (x.run actions).IsWhole ∧ x.Along Delivers actions := by
  induction actions generalizing x with
  | nil => exact ⟨whole, trivial⟩
  | cons action rest ih =>
    have next := sound.perform action
    have size : (x.perform action).1.queue.consumers = x.queue.consumers :=
      next.size.trans sound.size.symm
    have after : (x.perform action).1.IsWhole := by
      intro i inside
      rw [size] at inside
      exact (x.perform_affects inside action).whole sound inside (whole i inside) (calm.1 i)
    obtain ⟨ended, answers⟩ := ih next after calm.2
    exact ⟨ended, sound.delivers whole action, answers⟩

/-- In every run on a queue that was not used before, in which no reader looks at what became of a
long record that one of its reads ended inside of: each reader got the first of the records accepted
for its slot, in order, whole and once; the end of the data is reported when it got all of them; and
no call reports a mismatch or is stopped by an assertion. -/
theorem accepted_delivered {memory : Segment} {handle : Handle} (has : memory.Has handle)
    (unused : (memory.queue handle).IsUnused) (limit : Nat) (session : Session)
    (mapping : List ConsumerMapping) (readers : Nat → Session) (actions : List Action)
    (calm : (start memory handle limit session mapping readers).Along
      (fun y action => ∀ i, ¬ y.MeetsRest i action) actions) :
    let x := start memory handle limit session mapping readers
    (∀ i, i < (memory.queue handle).consumers →
      ((x.run actions).ports i).delivered <+: ((x.run actions).ports i).accepted) ∧
      x.Along Delivers actions := by
  intro x
  have sound : x.Sound (memory.queue handle).consumers :=
    Sound.start has unused limit session mapping readers
  have whole : x.IsWhole := fun i _ => ⟨rfl, nofun, List.nil_prefix⟩
  obtain ⟨ended, answers⟩ := sound.run_delivers whole actions calm
  refine ⟨?_, answers⟩
  intro i inside
  exact (ended i ((sound.run actions).size ▸ inside)).order

/-- A reader sleeps inside a record when the producer sends the rest and fails. It reports the
failure, and reads on. -/
def failedRead : List Action :=
  [.write 0 [1, 2], .finish, .read 0 true, .write 0 [9], .unbind true, .close Commons.undisturbed,
    .resume 0, .read 0 true]

/-- Somebody binds as a second producer beside one that is named zero, and has a record of the same
length. A reader that asked the first one for the rest of a record gets that of the other. -/
def secondHand : List Move :=
  [.acquire Commons.undisturbed ⟨0, 0⟩ "rows" 1,
    .bind Commons.undisturbed ⟨0, 0⟩ "rows" [1] [0, 1] 64,
    .bind Commons.undisturbed ⟨102, 2⟩ "rows" [1] [0, 1] 64,
    .bind Commons.undisturbed ⟨101, 1⟩ "rows" [1] [0, 1] 64, .consume 0 (.read true),
    .produce 0 (.call (.write 0 [1, 2])), .produce 0 (.call .finish), .consume 0 .resume,
    .produce 1 (.call (.write 0 [3, 4])), .produce 1 (.call .finish)]

/-- Though nobody gives up inside a record, a reader gets what was not written: the rest of a record,
after its producer failed, and the beginning of one record with the rest of another, from a queue
that was bound under the name zero. -/
theorem delivered_unlike_accepted :
    (narrowStart.Along (fun y action => ∀ i, ¬ y.GivesUpInside i action) failedRead ∧
      ((narrowStart.run failedRead).ports 0).accepted = [[1, 2], [9]] ∧
      ((narrowStart.run failedRead).ports 0).delivered = [[2]]) ∧
    ((Commons.start Commons.narrow 1).run secondHand).consumers.map (fun seat =>
      (seat.reading,
        match (seat.consumer.readStep true (.chunk ⟨2, [1]⟩)
          (((Commons.start Commons.narrow 1).run secondHand).memory.queue
            seat.consumer.handle)).2.2 with
        | .ended (.ok outcome) => some outcome
        | _ => none)) =
      [(some (.chunk ⟨2, [1]⟩), some (.record [1, 4]))] := by
  refine ⟨⟨?_, by decide +kernel, by decide +kernel⟩, by decide +kernel⟩
  exact ⟨fun _ => id, fun _ => id, fun _ => id, fun _ => id, fun _ => id, fun _ => id, fun _ => id,
    fun _ => id, trivial⟩

/-- A record of two bytes goes through `narrow` in two chunks. -/
def twoChunks : List Action :=
  [.write 0 [1, 2], .finish, .read 0 true, .finish, .resume 0, .read 0 true]

theorem accepted_delivered_twoChunks :
    ((narrowStart.run twoChunks).ports 0).delivered = [[1, 2]] ∧
      ((narrowStart.run twoChunks).ports 0).delivered <+:
        ((narrowStart.run twoChunks).ports 0).accepted ∧
      narrowStart.Along Delivers twoChunks := by
  have calm : narrowStart.Along (fun y action => ∀ i, ¬ y.MeetsRest i action) twoChunks := by
    refine ⟨fun i rest => rest.1, fun i rest => rest.1, ?_, fun i rest => rest.1, ?_, ?_, trivial⟩
    · intro i rest
      obtain ⟨⟨rfl, -, -⟩, torn, -⟩ := rest
      exact absurd torn (by decide +kernel)
    · intro i rest
      obtain ⟨⟨rfl, -, -⟩, torn, -⟩ := rest
      exact absurd torn (by decide +kernel)
    · intro i rest
      obtain ⟨⟨rfl, -, -⟩, torn, -⟩ := rest
      exact absurd torn (by decide +kernel)
  obtain ⟨order, answers⟩ :=
    accepted_delivered narrow_has narrow_isUnused 64 default [] (fun _ => default) twoChunks calm
  exact ⟨by decide +kernel, order 0 (by decide), answers⟩

end Exchange

end RecordExchange
