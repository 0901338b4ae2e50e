import RecordExchange.Proofs.Exchange.Calm
import RecordExchange.Proofs.Traffic

set_option autoImplicit false

/-!
The counters of a slot while parties are at work on it.

Whatever a party does, the counters of a slot account for every record afterwards if they did so
before, as long as the producer is bound and the slot active. Only the reader of that slot matters:
it must not have met a mismatch, nor have left a long record halfway.
-/

namespace RecordExchange.Exchange

variable {x y : Exchange} {n i : Nat}

/-- As long as the producer is bound and the slot active, the counters of the slot account for every
record. -/
def Tallied (x : Exchange) (i : Nat) : Prop :=
  x.stand = .bound → (x.slot i).status = .active → (x.producer.outlet x.queue i).Accounted

theorem Tallied.of_closed (closed : (x.slot i).status ≠ .active) : x.Tallied i :=
  fun _ active => absurd active closed

theorem Tallied.of_stand (stands : x.stand ≠ .bound) : x.Tallied i :=
  fun bound => absurd bound stands

/-- A slot that is done or as before, with what is held back for it. -/
theorem Tallied.rests (tallied : x.Tallied i) (rests : (x.slot i).Rests (y.slot i))
    (kept : y.stand = .bound → x.stand = .bound ∧ y.held i = x.held i) : y.Tallied i := by
  intro bound active
  obtain ⟨before, held⟩ := kept bound
  cases rests with
  | stays alike traffic =>
    have accounted := tallied before (alike.status.symm.trans active)
    exact accounted.congr alike.ring traffic held
  | closes done =>
    rw [done] at active
    cases active

theorem Tallied.still (tallied : x.Tallied i) (slot : y.slot i = x.slot i)
    (kept : y.stand = .bound → x.stand = .bound ∧ y.held i = x.held i) : y.Tallied i :=
  tallied.rests (slot ▸ .refl _) kept

theorem Tallied.outlet (tallied : x.Tallied i) (bound : x.stand = .bound) {o : Outlet}
    (slot : y.slot i = o.lane.slot) (held : y.held i = o.held)
    (proceeds : (x.slot i).Proceeds o.lane.slot)
    (accounted : (x.slot i).status = .active → o.lane.slot.status = .active →
      (x.producer.outlet x.queue i).Accounted → o.Accounted) : y.Tallied i := by
  intro _ active
  rw [slot] at active
  have before := proceeds.active_of_active active
  have after := accounted before active (tallied bound before)
  exact after.congr (congrArg Slot.ring slot) (congrArg Slot.traffic slot) held

section Steps

variable (sound : x.Sound n) (inside : i < x.queue.consumers)
include sound inside

section Producer

variable (matched : (x.ports i).mismatched = false)
include matched

/-- What the reader of a slot is still to get, from a producer that is bound. -/
theorem Sound.awaits (bound : x.stand = .bound) :
    ∃ skip queue, Awaits true (x.slot i) (x.held i) skip queue := by
  obtain ⟨skip, queue, awaits, -, -⟩ := sound.ports i inside matched
  rw [Stand.keeps_of_bound bound] at awaits
  exact ⟨skip, queue, awaits⟩

theorem Tallied.write (tallied : x.Tallied i) (bound : x.stand = .bound) (j : Nat)
    (record : Record) : (x.write j record).1.Tallied i := by
  by_cases fits : j < x.queue.consumers ∧ record.length ≤ LengthWord.maxLength
  · obtain ⟨there, short⟩ := fits
    obtain ⟨o, made⟩ : ∃ o, o = ((x.producer.outlet x.queue j).write x.limit record).1 := ⟨_, rfl⟩
    obtain ⟨y, written⟩ : ∃ y, y = (x.write j record).1 := ⟨_, rfl⟩
    have places : y.producer = (x.producer.setOutlet x.queue j o).1 ∧
        y.memory = x.memory.setQueue x.producer.handle (x.producer.setOutlet x.queue j o).2 := by
      rw [written, made]
      simp only [Exchange.write, Producer.write_of_fits x.limit there short]
      cases ((x.producer.outlet x.queue j).write x.limit record).2 with
      | error cause => exact ⟨rfl, rfl⟩
      | ok done =>
        dsimp only
        split <;> exact ⟨rfl, rfl⟩
    have queue : y.queue = x.queue.setLane j o.lane := by
      rw [Exchange.queue, places.1, places.2]
      exact sound.has.queue_setQueue _
    rw [← written]
    by_cases own : j = i
    · subst own
      have slot : y.slot j = o.lane.slot := by
        rw [Exchange.slot, queue, Queue.lane_setLane_self there]
      have held : y.held j = o.held := by
        rw [Exchange.held, places.1]
        exact Producer.setOutlet_held_self sound.sized there o
      have proceeds := (x.producer.outlet x.queue j).write_proceeds x.limit record
      rw [← made] at proceeds
      refine tallied.outlet bound slot held proceeds ?_
      intro active _ accounted
      obtain ⟨skip, queue, awaits⟩ := sound.awaits inside matched bound
      rw [made]
      exact Outlet.Accounted.write (o := x.producer.outlet x.queue j) awaits active accounted
        x.limit short
    · refine tallied.still ?_ fun _ => ⟨bound, ?_⟩
      · rw [Exchange.slot, queue, Queue.lane_setLane_other _ own]
        rfl
      · rw [Exchange.held, places.1]
        exact Producer.setOutlet_held_other _ _ own o
  · obtain ⟨cause, refused, -⟩ := x.producer.write_refused x.limit x.queue fits
    simp only [Exchange.write, refused]
    refine tallied.still ?_ fun _ => ⟨bound, rfl⟩
    rw [Exchange.slot, sound.withProducer_queue rfl]
    rfl

theorem Tallied.finish (tallied : x.Tallied i) (bound : x.stand = .bound) :
    x.finish.1.Tallied i := by
  have queue : x.finish.1.queue = (x.producer.finish x.queue).2.1 :=
    sound.withProducer_queue (Producer.finish_handle ..) _
  rcases Producer.finish_slot sound.sized inside with ⟨slot, held⟩ | ⟨slot, held⟩
  · rw [← queue] at slot
    exact tallied.still slot fun _ => ⟨bound, held⟩
  · rw [← queue] at slot
    refine tallied.outlet bound slot held (x.producer.outlet x.queue i).finish_proceeds ?_
    intro active still accounted
    obtain ⟨skip, queue, awaits⟩ := sound.awaits inside matched bound
    exact accounted.finish (o := x.producer.outlet x.queue i) awaits active still

end Producer

theorem Tallied.reset : x.reset.1.Tallied i := by
  apply Tallied.of_closed
  have queue : x.reset.1.queue = (x.producer.reset x.queue).2 := sound.withProducer_queue rfl _
  rw [Exchange.slot, queue]
  rcases x.producer.reset_slot inside with ⟨same, closed⟩ | ⟨-, failed⟩
  · rw [same]
    exact closed
  · rw [failed]
    exact SlotStatus.noConfusion

theorem Tallied.read (tallied : x.Tallied i) (calm : (x.ports i).Calm (x.slot i)) (j : Nat)
    (canWait : Bool) {point : ReadPoint} (stands : (x.ports j).StandsAt point) :
    (x.read j canWait point).1.Tallied i := by
  have index := sound.indexed j
  have frame := (x.ports j).consumer.readStep_frame canWait point x.queue
  have queue : (x.read j canWait point).1.queue =
      ((x.ports j).consumer.readStep canWait point x.queue).1 := sound.withQueue_queue _
  by_cases own : j = i
  · subst own
    intro (bound : x.stand = .bound) active
    have there : (x.ports j).consumer.index < x.queue.consumers := by rwa [index]
    have proceeds := (x.ports j).consumer.readStep_proceeds (q := x.queue) canWait point j inside
    have counts := Consumer.readStep_hasRead there canWait point
    rw [← queue] at proceeds
    rw [index, ← queue] at counts
    have before : (x.slot j).status = .active := proceeds.active_of_active active
    obtain ⟨skip, records, ⟨t, rest, feeds, rfl, rfl⟩, follows, -⟩ :=
      sound.ports j inside calm.matched
    rw [Stand.keeps_of_bound bound] at feeds
    have advances := x.read_advances index inside canWait feeds (follows.placed_at stands)
    have ⟨_, _, reads, _⟩ := advances
    have matched := follows.no_mismatch stands (fun torn _ => calm.apart torn) reads
    rw [← queue] at advances
    exact (tallied bound before).read ⟨t, rest, feeds, rfl, rfl⟩ before rfl advances matched counts
      active
  · refine tallied.still ?_ fun bound => ⟨bound, rfl⟩
    rw [Exchange.slot, queue, frame.others i (by rwa [index])]
    rfl

theorem Tallied.leave (tallied : x.Tallied i) (j : Nat) : (x.leave j).Tallied i := by
  have queue : (x.leave j).queue = ((x.ports j).consumer.reset x.queue).1 :=
    sound.withQueue_queue _
  have rests := (x.ports j).consumer.reset_rests (q := x.queue) i inside
  rw [← queue] at rests
  exact tallied.rests rests fun bound => ⟨bound, rfl⟩

/-- Whatever a party does, the counters of a slot account for every record if they did. -/
theorem Tallied.perform (tallied : x.Tallied i) (calm : (x.ports i).Calm (x.slot i))
    (action : Action) : (x.perform action).1.Tallied i := by
  cases action with
  | write j record =>
    simp only [Exchange.perform]
    split
    · rename_i bound
      exact tallied.write sound inside calm.matched bound j record
    · exact tallied
  | finish =>
    simp only [Exchange.perform]
    split
    · rename_i bound
      exact tallied.finish sound inside calm.matched bound
    · exact tallied
  | drain =>
    simp only [Exchange.perform]
    split
    · rename_i bound
      rw [drain_fst]
      exact tallied.finish sound inside calm.matched bound
    · exact tallied
  | waited =>
    simp only [Exchange.perform]
    split
    · refine tallied.still ?_ fun bound => ⟨bound, rfl⟩
      rw [slot, sound.withQueue_queue]
      rfl
    · exact tallied
  | reset =>
    simp only [Exchange.perform]
    split
    · exact .reset sound inside
    · exact tallied
  | unbind failed =>
    simp only [Exchange.perform]
    split
    · exact .of_stand Stand.noConfusion
    · exact tallied
  | close live =>
    simp only [Exchange.perform]
    split
    · rename_i failed point _
      rw [close_places]
      apply Tallied.of_stand
      change afterClosing _ _ ≠ _
      cases (x.producer.closeStep x.memory failed live point).2.2 <;> exact Stand.noConfusion
    · exact tallied
  | wake timely =>
    simp only [Exchange.perform]
    split
    · exact .of_stand Stand.noConfusion
    · exact tallied
  | giveUp live =>
    simp only [Exchange.perform]
    split
    · exact .of_stand Stand.noConfusion
    · exact tallied
  | read j canWait =>
    simp only [Exchange.perform]
    split
    · rename_i ready
      exact tallied.read sound inside calm j canWait (.inl ⟨ready.2, rfl⟩)
    · exact tallied
  | resume j =>
    simp only [Exchange.perform]
    split
    · rename_i point sleeping
      split
      · exact tallied.read sound inside calm j true (.inr sleeping)
      · exact tallied
    · exact tallied
  | abandon j live =>
    simp only [Exchange.perform]
    split
    · exact tallied.still rfl fun bound => ⟨bound, rfl⟩
    · exact tallied
  | leave j =>
    simp only [Exchange.perform]
    split
    · exact tallied.leave sound inside j
    · exact tallied

end Steps

theorem Tallied.fresh {cells : Array UInt8} (fresh : x.slot i = Slot.fresh cells)
    (empty : x.held i = none) : x.Tallied i := by
  intro _ _
  have slot : (x.producer.outlet x.queue i).lane.slot = Slot.fresh cells := fresh
  have whole : (x.producer.outlet x.queue i).halfSent = 0 := by
    apply Outlet.halfSent_eq_zero
    rw [slot]
    rintro record ⟨impossible, -⟩
    cases impossible
  have nothing : (x.producer.outlet x.queue i).pending = 0 := by
    change (x.held i).elim 0 (·.length) = 0
    rw [empty]
    rfl
  refine ⟨?_, ?_⟩
  · rw [whole, nothing, slot]
    rfl
  · rw [nothing, slot]
    rfl

/-- The reader of the slot is calm, and the counters of the slot account for every record. -/
structure InOrder (x : Exchange) (i : Nat) : Prop where
  calm : (x.ports i).Calm (x.slot i)
  tallied : x.Tallied i

/-- An action on which the reader does not give up inside a long record. -/
theorem InOrder.perform (ordered : x.InOrder i) (sound : x.Sound n)
    (inside : i < x.queue.consumers) {action : Action} (stays : ¬ x.GivesUpInside i action)
    (proceeds : (x.slot i).Proceeds ((x.perform action).1.slot i)) :
    (x.perform action).1.InOrder i :=
  ⟨(x.perform_affects inside action).calm sound inside ordered.calm stays proceeds,
    ordered.tallied.perform sound inside ordered.calm action⟩

/-- A slot that rests, whoever holds on to it as its reader. -/
theorem InOrder.rests (ordered : x.InOrder i) (rests : (x.slot i).Rests (y.slot i))
    (port : ∃ consumer, y.ports i = { x.ports i with consumer })
    (kept : y.stand = .bound → x.stand = .bound ∧ y.held i = x.held i) : y.InOrder i := by
  obtain ⟨consumer, same⟩ := port
  have calm := ordered.calm.move rests.proceeds.isOpen
  refine ⟨?_, ordered.tallied.rests rests kept⟩
  rw [same]
  exact ⟨calm.matched, calm.apart⟩

end RecordExchange.Exchange
