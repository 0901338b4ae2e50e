import RecordExchange.Proofs.Exchange.Runs

set_option autoImplicit false

/-!
What reached a reader, compared with what was accepted for it.

A reader got every record whole and in its turn exactly as long as it never took the rest of a long
record for a record of its own. Where no reader even looks at such a rest, it never meets a
mismatch, and the end of the data comes after the last record.
-/

namespace RecordExchange

namespace Port

variable {port : Port} {slot after : Slot} {point : ReadPoint} {step : ReadStep}
  {skip skip' : Nat} {queue queue' : List Record}

/-- One record more keeps what was delivered in order if it is the one whose turn it is. -/
theorem Accounts.deliver_iff {first : Record} {rest : List Record}
    (accounts : port.Accounts (first :: rest)) (payload : Record) :
    port.delivered ++ [payload] <+: port.accepted ↔
      port.delivered <+: port.accepted ∧ payload = first := by
  obtain ⟨taken, order, ends⟩ := accounts
  have size := ends.length_eq
  rw [order]
  constructor
  · intro longer
    obtain ⟨left, split⟩ := longer
    rw [List.append_assoc] at split
    obtain ⟨same, turn⟩ := List.append_inj split size
    refine ⟨⟨first :: rest, by rw [same]⟩, ?_⟩
    injection turn
  · intro turn
    obtain ⟨⟨left, split⟩, rfl⟩ := turn
    obtain ⟨same, -⟩ := List.append_inj split size
    exact ⟨rest, by rw [same, List.append_assoc, List.singleton_append]⟩

/-- Everything that was accepted was delivered, once nothing is left. -/
theorem Accounts.all (accounts : port.Accounts []) (order : port.delivered <+: port.accepted) :
    port.delivered = port.accepted := by
  obtain ⟨taken, accepted, ends⟩ := accounts
  apply order.eq_of_length
  rw [accepted, List.append_nil]
  exact ends.length_eq

/-- Adding to what was accepted does not put what was delivered in order. -/
theorem Accounts.accept_iff (accounts : port.Accounts queue) (record : Record) :
    port.delivered <+: port.accepted ++ [record] ↔ port.delivered <+: port.accepted := by
  constructor
  · intro order
    apply List.prefix_of_prefix_length_le order (List.prefix_append ..)
    obtain ⟨taken, accepted, ends⟩ := accounts
    rw [accepted, List.length_append, ends.length_eq]
    exact Nat.le_add_right ..
  · intro order
    exact order.trans (List.prefix_append ..)

/-- The reader looks for a row after a read of its ended inside a long record, and what it finds
passes for a record that fits the buffer. -/
def TakesRest (port : Port) (slot : Slot) (point : ReadPoint) : Prop :=
  point = .row ∧ port.torn = true ∧ slot.ring.rows ≠ 0 ∧ slot.ring.readLength.1 ≤ slot.ring.chunk

/-- A step of a read keeps what was delivered in order unless it takes a rest. -/
theorem Follows.isPrefix_iff (stands : port.StandsAt point)
    (follows : port.Follows slot skip queue) (accounts : port.Accounts queue)
    (reads : Reads slot skip queue point after step skip' queue') (consumer : Consumer)
    (matched : (port.after consumer point step).mismatched = false) :
    (port.after consumer point step).delivered <+: (port.after consumer point step).accepted ↔
      port.delivered <+: port.accepted ∧ ¬ port.TakesRest slot point := by
  have inside := stands.isInside
  cases reads with
  | blocks none alike => exact (and_iff_left fun rest => rest.2.2.1 none).symm
  | sleeps idle alike => exact (and_iff_left fun rest => rest.2.2.1 (idle rest.1)).symm
  | ends none finished whole nothing => exact (and_iff_left fun rest => rest.2.2.1 none).symm
  | @fails point after cause idle closed ring stays other =>
    rw [after_failed _ _ _ other]
    exact (and_iff_left fun rest => rest.2.2.1 (idle rest.1)).symm
  | @takes after first rest front bound rows short =>
    subst front
    have outside : port.isInside ≠ true := by
      rw [inside]
      exact Bool.false_ne_true
    refine (accounts.deliver_iff (first.drop skip)).trans (and_congr_right fun _ => ?_)
    constructor
    · intro whole rest
      obtain ⟨-, torn, -, -⟩ := rest
      rcases follows.behind (.inl torn) with begun | spent
      · -- the bytes that went before are missing, so what came is too short to be the record
        have less := congrArg List.length whole
        have bounded := bound begun
        rw [List.length_drop] at less
        omega
      · exact rows spent.none
    · intro apart
      have whole : skip = 0 := by
        by_contra some
        have torn := (follows.begun (Nat.pos_of_ne_zero some)).resolve_right outside
        exact apart ⟨rfl, torn, rows, short⟩
      rw [whole, List.drop_zero]
  | begins front rows positive more length =>
    refine (and_iff_left fun rest => ?_).symm
    have short := rest.2.2.2
    omega
  | continues front begun more => exact (and_iff_left fun rest => nomatch rest.1).symm
  | @completes after first rest front =>
    subst front
    refine (accounts.deliver_iff first).trans (and_congr_right fun _ => ?_)
    exact ⟨fun _ rest => (nomatch rest.1), fun _ => rfl⟩
  | mismatches opened front other => exact Bool.noConfusion matched

/-- Inside a record that it did not leave, as far as the slot is still open, a reader finds what it
misses. -/
theorem Follows.no_mismatch (follows : port.Follows slot skip queue) (stands : port.StandsAt point)
    (apart : port.torn = true → port.isInside = true → ¬ slot.IsOpen)
    (reads : Reads slot skip queue point after step skip' queue') (expected actual : Nat) :
    step ≠ .ended (.error (.longRecordMismatch expected actual)) := by
  rintro rfl
  have inside := stands.isInside
  cases reads with
  | fails idle closed ring stays other => exact other _ _ rfl
  | @mismatches after record first rest opened front other =>
    have sleeping : port.reading = some (.chunk record) := by
      rcases stands with ⟨_, impossible⟩ | sleeping
      · cases impossible
      · exact sleeping
    obtain ⟨begun, left, same, place⟩ := follows.placed record sleeping opened
    rw [front] at same
    cases same
    rcases place with rfl | ⟨torn, -⟩
    · apply other
      change first.length - (first.take skip).length = _
      rw [List.length_take]
      omega
    · exact apart torn inside opened

/-- A reader that got everything so far, and that never takes up a long record it left. -/
structure Whole (port : Port) : Prop where
  matched : port.mismatched = false
  apart : port.torn = true → port.isInside = false
  order : port.delivered <+: port.accepted

/-- Inside a record it did not leave, a reader finds what it misses. -/
theorem Whole.no_mismatch (whole : port.Whole) (stands : port.StandsAt point)
    (follows : port.Follows slot skip queue)
    (reads : Reads slot skip queue point after step skip' queue') (expected actual : Nat) :
    step ≠ .ended (.error (.longRecordMismatch expected actual)) := by
  apply follows.no_mismatch stands _ reads
  intro torn inside
  rw [whole.apart torn] at inside
  cases inside

/-- A step of a read that does not look at the rest of a record. -/
theorem Whole.received (whole : port.Whole) (stands : port.StandsAt point)
    (follows : port.Follows slot skip queue) (accounts : port.Accounts queue)
    (reads : Reads slot skip queue point after step skip' queue')
    (calm : ¬ (point = .row ∧ port.torn = true ∧ slot.ring.rows ≠ 0)) (consumer : Consumer) :
    (port.after consumer point step).Whole := by
  have inside := stands.isInside
  have unmatched := whole.no_mismatch stands follows reads
  have matched : (port.after consumer point step).mismatched = false := by
    cases reads with
    | fails idle closed ring stays other =>
      rw [after_failed _ _ _ other]
      exact whole.matched
    | mismatches opened front other => exact absurd rfl (unmatched _ _)
    | _ => exact whole.matched
  refine ⟨matched, ?_, ?_⟩
  · cases reads with
    | sleeps idle alike =>
      intro torn
      exact inside.symm.trans (whole.apart torn)
    | begins front rows positive more length =>
      intro torn
      exact absurd ⟨rfl, torn, rows⟩ calm
    | continues front begun more =>
      intro torn
      have outside := whole.apart torn
      rw [inside] at outside
      cases outside
    | fails idle closed ring stays other =>
      rw [after_failed _ _ _ other]
      exact fun _ => rfl
    | _ => exact fun _ => rfl
  · refine (follows.isPrefix_iff stands accounts reads consumer matched).mpr ⟨whole.order, ?_⟩
    intro rest
    exact calm ⟨rest.1, rest.2.1, rest.2.2.1⟩

end Port

namespace Exchange

variable {x : Exchange} {n i : Nat}

/-- What an action does to the reader of slot `i` and to what passed through the slot. -/
inductive Affects (x : Exchange) (i : Nat) (action : Action) : Port → Prop where
  /-- The action is somebody else's. -/
  | spares (calm : ¬ x.LooksAtRow i action) : Affects x i action (x.ports i)
  /-- The producer writes a record. -/
  | accepts (record : Record) (calm : ¬ x.LooksAtRow i action) :
      Affects x i action
        { x.ports i with accepted := (x.ports i).accepted ++ [record] }
  /-- The reader stops reading. -/
  | leaves (consumer : Consumer) (calm : ¬ x.LooksAtRow i action) :
      Affects x i action { x.ports i with consumer }
  /-- The reader makes a step of a read. -/
  | reads (canWait : Bool) {point : ReadPoint} (stands : (x.ports i).StandsAt point)
      (looks : x.LooksAtRow i action ↔ point = .row) :
      Affects x i action ((x.read i canWait point).1.ports i)
  /-- The reader gives up its sleep. -/
  | abandons {point : ReadPoint} {cause : Error} (sleeping : (x.ports i).reading = some point)
      (other : ∀ expected actual, cause ≠ .longRecordMismatch expected actual)
      (calm : ¬ x.LooksAtRow i action)
      (given : ∃ live, action = .abandon i live ∧ live.check = .error cause) :
      Affects x i action ((x.ports i).ended point (.error cause))

theorem write_affects (x : Exchange) (i j : Nat) (record : Record) :
    x.Affects i (.write j record) ((x.write j record).1.ports i) := by
  obtain ⟨p, q, result, written⟩ : ∃ p q result,
      x.producer.write x.limit x.queue j record = (p, q, result) := ⟨_, _, _, rfl⟩
  simp only [write, written]
  cases result with
  | error cause => exact .spares id
  | ok done =>
    dsimp only
    split
    · rw [withPort_ports]
      split
      · rename_i here
        rw [here]
        exact .accepts record id
      · exact .spares id
    · exact .spares id

theorem read_affects (x : Exchange) {i j : Nat} (action : Action) (canWait : Bool)
    {point : ReadPoint} (stands : (x.ports j).StandsAt point)
    (looks : x.LooksAtRow i action ↔ j = i ∧ point = .row) :
    x.Affects i action ((x.read j canWait point).1.ports i) := by
  by_cases here : j = i
  · subst here
    exact .reads canWait stands (looks.trans (and_iff_right rfl))
  · have other : (x.read j canWait point).1.ports i = x.ports i := by
      rw [read_places, withPort_ports, if_neg (Ne.symm here)]
      rfl
    rw [other]
    exact .spares fun row => here (looks.mp row).1

/-- An action does one of the things listed to each slot. -/
theorem perform_affects (x : Exchange) (inside : i < x.queue.consumers) (action : Action) :
    x.Affects i action ((x.perform action).1.ports i) := by
  cases action with
  | write j record =>
    simp only [perform]
    split
    · exact x.write_affects i j record
    · exact .spares id
  | giveUp live =>
    simp only [perform]
    split
    · exact .spares id
    · exact .spares id
  | read j canWait =>
    simp only [perform]
    split
    · rename_i ready
      apply x.read_affects _ canWait (.inl ⟨ready.2, rfl⟩)
      constructor
      · intro looks
        exact ⟨looks.1, rfl⟩
      · intro own
        obtain ⟨rfl, -⟩ := own
        exact ⟨rfl, ready⟩
    · rename_i busy
      apply Affects.spares
      intro looks
      obtain ⟨rfl, ready⟩ := looks
      exact busy ready
  | resume j =>
    simp only [perform]
    split
    · rename_i point sleeping
      split
      · apply x.read_affects _ true (.inr sleeping)
        constructor
        · intro looks
          obtain ⟨rfl, -, row⟩ := looks
          rw [sleeping] at row
          cases row
          exact ⟨rfl, rfl⟩
        · intro own
          obtain ⟨rfl, rfl⟩ := own
          exact ⟨rfl, inside, sleeping⟩
      · rename_i outside
        apply Affects.spares
        intro looks
        obtain ⟨rfl, -, -⟩ := looks
        exact outside inside
    · rename_i idle
      apply Affects.spares
      intro looks
      obtain ⟨rfl, -, row⟩ := looks
      rw [idle] at row
      cases row
  | abandon j live =>
    simp only [perform]
    split
    · rename_i point cause sleeping failed
      simp only [abandon, withPort_ports]
      split
      · rename_i here
        subst here
        exact .abandons sleeping (Liveness.check_other failed) id ⟨live, rfl, failed⟩
      · exact .spares id
    · exact .spares id
  | leave j =>
    simp only [perform]
    split
    · simp only [leave, withPort_ports]
      split
      · rename_i here
        subst here
        exact .leaves _ id
      · exact .spares id
    · exact .spares id
  | _ =>
    simp only [perform]
    split <;> exact .spares id

/-- What a step of a read does, seen from an exchange in order. -/
theorem Sound.reads (sound : x.Sound n) (inside : i < x.queue.consumers) (canWait : Bool)
    {point : ReadPoint} (stands : (x.ports i).StandsAt point)
    (matched : (x.ports i).mismatched = false) :
    ∃ skip queue after skip' queue', (x.ports i).Follows (x.slot i) skip queue ∧
      (x.ports i).Accounts queue ∧
      Reads (x.slot i) skip queue point after
        ((x.ports i).consumer.readStep canWait point x.queue).2.2 skip' queue' := by
  obtain ⟨skip, queue, ⟨t, rest, feeds, rfl, rfl⟩, follows, accounts⟩ :=
    sound.ports i inside matched
  obtain ⟨skip', queue', reads, -⟩ :=
    x.read_advances (sound.indexed i) inside canWait feeds (follows.placed_at stands)
  exact ⟨_, _, _, skip', queue', follows, accounts, reads⟩

theorem read_port (x : Exchange) (i : Nat) (canWait : Bool) (point : ReadPoint) :
    (x.read i canWait point).1.ports i =
      (x.ports i).after ((x.ports i).consumer.readStep canWait point x.queue).2.1 point
        ((x.ports i).consumer.readStep canWait point x.queue).2.2 := by
  rw [read_places, withPort_ports, if_pos rfl]

end Exchange

end RecordExchange
