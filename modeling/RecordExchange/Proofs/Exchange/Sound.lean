import Mathlib.Data.List.Forall2
import RecordExchange.Proofs.Exchange.Run

set_option autoImplicit false

/-!
What ties the parties of an exchange together.

For every slot, the records accepted so far are those whose last bytes the reader took, followed by
those it is still to get; and where the reader stands agrees with how many bytes of the first of
them went before. Every step of every party keeps this up, until a reader reports that what it
finds does not continue the record it has.
-/

namespace RecordExchange

/-- The slot is closed, and no row is left in it. -/
structure Slot.IsSpent (slot : Slot) : Prop where
  closed : ¬ slot.IsOpen
  none : slot.ring.rows = 0

theorem Slot.Alike.isOpen {slot after : Slot} (alike : slot.Alike after) (opened : after.IsOpen) :
    slot.IsOpen := by
  rw [Slot.IsOpen, ← alike.status]
  exact opened

theorem Slot.Alike.isSpent {slot after : Slot} (alike : slot.Alike after) (spent : slot.IsSpent) :
    after.IsSpent :=
  ⟨fun opened => spent.closed (alike.isOpen opened), by rw [alike.ring]; exact spent.none⟩

namespace Port

/-- The reader is still to get `queue`, of what was accepted; what it got of the others are their
ends. -/
def Accounts (port : Port) (queue : List Record) : Prop :=
  ∃ taken, port.accepted = taken ++ queue ∧ List.Forall₂ (· <:+ ·) port.delivered taken

/-- The reader stands where `skip` bytes of the first record of `queue` went before. -/
structure Follows (port : Port) (slot : Slot) (skip : Nat) (queue : List Record) : Prop where
  begun : 0 < skip → port.torn = true ∨ port.isInside = true
  behind : port.torn = true ∨ port.isInside = true → 0 < skip ∨ slot.IsSpent
  placed : ∀ record, port.reading = some (.chunk record) → slot.IsOpen →
    ∃ first rest, queue = first :: rest ∧
      (record = .beginning first skip ∨
        port.torn = true ∧ record.missing ≠ first.length - skip)

/-- The reader, its slot and what is held back for it belong together, until the reader reports
that they do not. -/
def Sound (keeps : Bool) (slot : Slot) (held : Option OverflowStore) (port : Port) : Prop :=
  port.mismatched = false → ∃ skip queue,
    Awaits keeps slot held skip queue ∧ port.Follows slot skip queue ∧ port.Accounts queue

end Port

/-- What a step of the producer does to one slot: the records `added` come behind the others, or the
slot is closed and emptied. -/
structure Yields (keeps keeps' : Bool) (before : Slot) (held : Option OverflowStore) (after : Slot)
    (held' : Option OverflowStore) (added : List Record) : Prop where
  awaits : ∀ skip queue, Awaits keeps before held skip queue →
    Awaits keeps' after held' skip (queue ++ added) ∨
      added = [] ∧ Awaits keeps' after held' 0 queue ∧ after.IsSpent
  opened : after.IsOpen → before.IsOpen
  spent : before.IsSpent → after.IsSpent

namespace Port

variable {keeps keeps' : Bool} {before after : Slot} {held held' : Option OverflowStore}
  {port : Port} {added : List Record}

theorem Accounts.add {queue : List Record} (accounts : port.Accounts queue)
    (added : List Record) :
    ({ port with accepted := port.accepted ++ added } : Port).Accounts (queue ++ added) := by
  obtain ⟨taken, order, ends⟩ := accounts
  exact ⟨taken, by rw [order, List.append_assoc], ends⟩

/-- Where a reader stands depends on its slot only as far as it matters whether it is closed. -/
theorem Follows.move {skip : Nat} {queue : List Record} (follows : port.Follows before skip queue)
    (opened : after.IsOpen → before.IsOpen) (spent : before.IsSpent → after.IsSpent) :
    port.Follows after skip queue :=
  ⟨follows.begun, fun inside => (follows.behind inside).imp id spent,
    fun record sleeping open' => follows.placed record sleeping (opened open')⟩

theorem Follows.add {skip : Nat} {queue : List Record} (follows : port.Follows before skip queue)
    (added : List Record) :
    ({ port with accepted := port.accepted ++ added } : Port).Follows before skip
      (queue ++ added) := by
  refine ⟨follows.begun, follows.behind, ?_⟩
  intro record sleeping opened
  obtain ⟨first, rest, front, place⟩ := follows.placed record sleeping opened
  exact ⟨first, rest ++ added, by rw [front, List.cons_append], place⟩

theorem Sound.yields (sound : port.Sound keeps before held)
    (yields : Yields keeps keeps' before held after held' added) :
    ({ port with accepted := port.accepted ++ added } : Port).Sound keeps' after held' := by
  intro matched
  obtain ⟨skip, queue, awaits, follows, accounts⟩ := sound matched
  rcases yields.awaits skip queue awaits with fed | ⟨none, cleared, spent⟩
  · exact ⟨skip, queue ++ added, fed, (follows.add added).move yields.opened yields.spent,
      accounts.add added⟩
  · refine ⟨0, queue, cleared, ⟨fun begun => absurd begun (Nat.lt_irrefl 0), ?_, ?_⟩, ?_⟩
    · intro _
      exact .inr spent
    · intro record sleeping opened
      exact absurd opened spent.closed
    · rw [none, List.append_nil]
      exact accounts

/-- What adds no record leaves the reader itself alone, whatever it holds on with. -/
theorem Sound.still (sound : port.Sound keeps before held)
    (yields : Yields keeps keeps' before held after held' []) (consumer : Consumer) :
    ({ port with consumer } : Port).Sound keeps' after held' := by
  intro matched
  obtain ⟨skip, queue, awaits, follows, accounts⟩ := sound.yields yields matched
  rw [List.append_nil] at follows accounts
  exact ⟨skip, queue, awaits, ⟨follows.begun, follows.behind, follows.placed⟩, accounts⟩

theorem ended_of_other (port : Port) (point : ReadPoint) {cause : Error}
    (other : ∀ expected actual, cause ≠ .longRecordMismatch expected actual) :
    port.ended point (.error cause) =
      { port with reading := none, torn := port.torn || point.isInside } := by
  cases cause with
  | longRecordMismatch expected actual => exact absurd rfl (other expected actual)
  | _ => rfl

/-- A step on which a read fails for another reason than a mismatch. -/
theorem after_failed (port : Port) (consumer : Consumer) (point : ReadPoint) {cause : Error}
    (other : ∀ expected actual, cause ≠ .longRecordMismatch expected actual) :
    port.after consumer point (.ended (.error cause)) =
      { port with consumer, reading := none, torn := port.torn || point.isInside } :=
  ended_of_other { port with consumer } point other

/-- A read that brings the first record of the queue, or an end of it, settles that record. -/
theorem Accounts.take {queue rest : List Record} {first payload : Record}
    (accounts : port.Accounts queue) (front : queue = first :: rest) (ending : payload <:+ first)
    (consumer : Consumer) :
    ({ port with
        consumer, reading := none, torn := false,
        delivered := port.delivered ++ [payload] } : Port).Accounts rest := by
  obtain ⟨taken, order, ends⟩ := accounts
  refine ⟨taken ++ [first], ?_, List.rel_append ends (.cons ending .nil)⟩
  change port.accepted = _
  rw [order, front, List.append_assoc, List.singleton_append]

/-- Where a step of a read may begin. -/
def StandsAt (port : Port) (point : ReadPoint) : Prop :=
  port.reading = none ∧ point = .row ∨ port.reading = some point

theorem StandsAt.isInside {point : ReadPoint} (stands : port.StandsAt point) :
    port.isInside = point.isInside := by
  rcases stands with ⟨idle, rfl⟩ | sleeping
  · rw [Port.isInside, idle]
    rfl
  · rw [Port.isInside, sleeping]
    rfl

theorem Follows.placed_at {slot : Slot} {skip : Nat} {queue : List Record} {point : ReadPoint}
    (follows : port.Follows slot skip queue) (stands : port.StandsAt point) :
    Placed slot skip queue point := by
  intro record stood opened
  subst stood
  have sleeping : port.reading = some (.chunk record) := by
    rcases stands with ⟨_, impossible⟩ | sleeping
    · cases impossible
    · exact sleeping
  have inside : port.isInside = true := stands.isInside
  have begun : 0 < skip := by
    rcases follows.behind (.inr inside) with begun | spent
    · exact begun
    · exact absurd opened spent.closed
  obtain ⟨first, rest, front, place⟩ := follows.placed record sleeping opened
  refine ⟨begun, first, rest, front, ?_⟩
  rcases place with whole | ⟨_, other⟩
  · exact .inl whole
  · exact .inr other

theorem Follows.between (slot : Slot) (queue : List Record) (whole : port.torn = false)
    (idle : port.reading = none) : port.Follows slot 0 queue := by
  refine ⟨fun begun => absurd begun (Nat.lt_irrefl 0), ?_, ?_⟩
  · rw [whole, Port.isInside, idle]
    intro begun
    rcases begun with torn | inside
    · cases torn
    · cases inside
  · intro record sleeping
    rw [idle] at sleeping
    cases sleeping

/-- A read that ends inside a long record leaves it torn. -/
theorem Follows.stop {slot : Slot} {point : ReadPoint} {skip : Nat} {queue : List Record}
    (stands : port.StandsAt point) (follows : port.Follows slot skip queue) :
    ({ port with reading := none, torn := port.torn || point.isInside } : Port).Follows slot skip
      queue := by
  have inside := stands.isInside
  refine ⟨?_, ?_, nofun⟩
  · intro begun
    left
    change (port.torn || point.isInside) = true
    rw [← inside, Bool.or_eq_true_iff]
    exact follows.begun begun
  · intro begun
    rcases begun with torn | impossible
    · apply follows.behind
      rw [inside]
      exact Bool.or_eq_true_iff.mp torn
    · cases impossible

theorem Sound.step {slot : Slot} {point : ReadPoint} {step : ReadStep} {skip : Nat}
    {queue : List Record} (stands : port.StandsAt point)
    (follows : port.Follows slot skip queue) (accounts : port.Accounts queue)
    (advances : Advances keeps held skip queue slot point after step) (consumer : Consumer) :
    (port.after consumer point step).Sound keeps after held := by
  obtain ⟨skip', queue', reads, awaits⟩ := advances
  have inside := stands.isInside
  intro matched
  cases reads with
  | blocks _ alike =>
    have same : port.torn = (port.torn || ReadPoint.row.isInside) := (Bool.or_false _).symm
    have stopped := (follows.stop stands).move alike.isOpen alike.isSpent
    rw [← same] at stopped
    exact ⟨skip, queue, awaits nofun, ⟨stopped.begun, stopped.behind, stopped.placed⟩, accounts⟩
  | sleeps _ alike =>
    refine ⟨skip, queue, awaits nofun, ?_, accounts⟩
    have moved := follows.move alike.isOpen alike.isSpent
    have same : (port.after consumer point (.sleeps point)).isInside = port.isInside :=
      inside.symm
    refine ⟨?_, ?_, ?_⟩
    · rw [same]
      exact moved.begun
    · rw [same]
      exact moved.behind
    · intro record sleeping opened
      cases sleeping
      rcases stands with ⟨_, impossible⟩ | asleep
      · cases impossible
      · exact moved.placed record asleep opened
  | ends _ finished whole nothing =>
    refine ⟨skip, queue, awaits nofun, ?_, accounts⟩
    refine ⟨fun begun => absurd begun (by omega), ?_, nofun⟩
    intro inside
    rcases inside with torn | impossible
    · rcases follows.behind (.inl torn) with begun | spent
      · exact .inl begun
      · exact absurd (.inr finished) spent.closed
    · cases impossible
  | @fails point after cause _ closed ring stays other =>
    have unmatched (expected actual : Nat) : ReadStep.ended (.error cause) ≠
        .ended (.error (.longRecordMismatch expected actual)) := by
      intro same
      injection same with same
      injection same with same
      exact other expected actual same
    have stopped := (follows.stop stands).move (fun opened => absurd opened stays)
      fun spent => (⟨stays, ring ▸ spent.none⟩ : after.IsSpent)
    refine ⟨skip, queue, awaits unmatched, ?_⟩
    rw [after_failed _ _ _ other]
    exact ⟨⟨stopped.begun, stopped.behind, stopped.placed⟩, accounts⟩
  | takes front bound rows short =>
    have settled := accounts.take front (List.drop_suffix skip _) consumer
    exact ⟨_, _, awaits nofun, .between after _ rfl rfl, settled⟩
  | @begins after first rest front _ positive more length =>
    refine ⟨_, queue, awaits nofun, ⟨fun _ => .inr rfl, fun _ => .inl positive, ?_⟩, accounts⟩
    intro record sleeping opened
    cases sleeping
    refine ⟨first, rest, front, ?_⟩
    rcases Nat.eq_zero_or_pos skip with rfl | begun
    · left
      rw [Nat.sub_zero, List.drop_zero]
      rfl
    · right
      -- a read that is at a row found the record torn, and takes its rest for a record
      have outside : port.isInside ≠ true := by
        rw [inside]
        exact Bool.false_ne_true
      refine ⟨(follows.begun begun).resolve_right outside, ?_⟩
      change first.length - skip - ((first.drop skip).take slot.ring.chunk).length ≠ _
      rw [List.length_take, List.length_drop]
      omega
  | @continues after first rest front begun more =>
    refine ⟨_, queue, awaits nofun, ⟨fun _ => .inr rfl, fun _ => .inl (by omega), ?_⟩, accounts⟩
    intro record sleeping opened
    cases sleeping
    exact ⟨first, rest, front, .inl rfl⟩
  | completes front =>
    have settled := accounts.take front (List.suffix_refl _) consumer
    exact ⟨_, _, awaits nofun, .between after _ rfl rfl, settled⟩
  | mismatches opened front other => exact Bool.noConfusion matched

theorem ended_mismatched (port : Port) (point : ReadPoint) (result : Except Error ReadOutcome)
    (mismatched : port.mismatched = true) : (port.ended point result).mismatched = true := by
  unfold ended
  split
  · exact mismatched
  · exact mismatched
  · rfl
  · exact mismatched

theorem after_mismatched (port : Port) (consumer : Consumer) (point : ReadPoint) (step : ReadStep)
    (mismatched : port.mismatched = true) :
    (port.after consumer point step).mismatched = true := by
  cases step with
  | sleeps next => exact mismatched
  | ended result => exact ended_mismatched { port with consumer } point result mismatched

theorem ended_consumer (port : Port) (point : ReadPoint) (result : Except Error ReadOutcome) :
    (port.ended point result).consumer = port.consumer := by
  unfold ended
  split <;> rfl

theorem ended_reading (port : Port) (point : ReadPoint) (result : Except Error ReadOutcome) :
    (port.ended point result).reading = none := by
  unfold ended
  split <;> rfl

theorem after_consumer (port : Port) (consumer : Consumer) (point : ReadPoint) (step : ReadStep) :
    (port.after consumer point step).consumer = consumer := by
  cases step with
  | sleeps next => rfl
  | ended result => exact ended_consumer { port with consumer } point result

end Port

end RecordExchange
