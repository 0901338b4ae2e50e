import RecordExchange.Proofs.Exchange.Received

set_option autoImplicit false

/-!
Reading on after a read ended inside a long record.

The bytes that the read took are gone, and nothing in the buffer tells the rest from a record of its
own: a reader that finds the rest and has room for it hands it out. This is the only way to get
anything but whole records, until a reader meets a mismatch.
-/

namespace RecordExchange.Exchange

variable {x : Exchange} {n i : Nat} {action : Action} {port : Port}

theorem Affects.mismatched_stays (affects : x.Affects i action port)
    (mismatched : (x.ports i).mismatched = true) : port.mismatched = true := by
  cases affects with
  | spares calm => exact mismatched
  | accepts record calm => exact mismatched
  | leaves consumer calm => exact mismatched
  | reads canWait stands looks =>
    rw [read_port]
    exact Port.after_mismatched _ _ _ _ mismatched
  | abandons sleeping other calm => exact Port.ended_mismatched _ _ _ mismatched

/-- An action keeps what was delivered in order unless it takes a rest. -/
theorem Sound.isPrefix_iff (sound : x.Sound n) (inside : i < x.queue.consumers)
    (affects : x.Affects i action port) (matched : port.mismatched = false) :
    port.delivered <+: port.accepted ↔
      (x.ports i).delivered <+: (x.ports i).accepted ∧ ¬ x.TakesRest i action := by
  have before : (x.ports i).mismatched = false := by
    rw [← Bool.not_eq_true]
    intro mismatched
    rw [affects.mismatched_stays mismatched] at matched
    cases matched
  have spared (calm : ¬ x.LooksAtRow i action) : ¬ x.TakesRest i action :=
    fun rest => calm rest.1.1
  cases affects with
  | spares calm => exact (and_iff_left (spared calm)).symm
  | accepts record calm =>
    obtain ⟨skip, queue, -, -, accounts⟩ := sound.ports i inside before
    exact (accounts.accept_iff record).trans (and_iff_left (spared calm)).symm
  | leaves consumer calm => exact (and_iff_left (spared calm)).symm
  | @reads canWait point stands looks =>
    obtain ⟨skip, queue, after, skip', queue', follows, accounts, reads⟩ :=
      sound.reads inside canWait stands before
    rw [read_port] at matched ⊢
    have rest : x.TakesRest i action ↔ (x.ports i).TakesRest (x.slot i) point := by
      rw [TakesRest, MeetsRest, looks, Port.TakesRest, and_assoc, and_assoc]
    rw [rest]
    exact follows.isPrefix_iff stands accounts reads _ matched
  | abandons sleeping other calm =>
    rw [Port.ended_of_other _ _ other]
    exact (and_iff_left (spared calm)).symm

theorem run_mismatched (x : Exchange) (sound : x.Sound n) (inside : i < n) (actions : List Action)
    (mismatched : (x.ports i).mismatched = true) :
    ((x.run actions).ports i).mismatched = true := by
  induction actions generalizing x with
  | nil => exact mismatched
  | cons action rest ih =>
    have affects := x.perform_affects (sound.size ▸ inside) action
    exact ih _ (sound.perform action) (affects.mismatched_stays mismatched)

/-- A run keeps what was delivered in order unless it takes a rest on the way. -/
theorem Sound.run_isPrefix_iff (sound : x.Sound n) (inside : i < n) (actions : List Action)
    (matched : ((x.run actions).ports i).mismatched = false) :
    ((x.run actions).ports i).delivered <+: ((x.run actions).ports i).accepted ↔
      (x.ports i).delivered <+: (x.ports i).accepted ∧
        x.Along (fun y action => ¬ y.TakesRest i action) actions := by
  induction actions generalizing x with
  | nil => exact (and_iff_left trivial).symm
  | cons action rest ih =>
    have present : i < x.queue.consumers := sound.size ▸ inside
    have next := sound.perform action
    have between : ((x.perform action).1.ports i).mismatched = false := by
      rw [← Bool.not_eq_true]
      intro mismatched
      have stays := run_mismatched _ next inside rest mismatched
      change ((x.run (action :: rest)).ports i).mismatched = true at stays
      rw [matched] at stays
      cases stays
    have step := sound.isPrefix_iff present (x.perform_affects present action) between
    refine (ih next matched).trans ?_
    rw [step, and_assoc, Along]

/-- Until its reader meets a mismatch, every record that was delivered is the one accepted in its
turn, or an end of it; and all are whole exactly as long as no reader took what it found, after a
read of its ended inside a long record, for a record that fits the buffer. -/
theorem delivered_whole_iff {memory : Segment} {handle : Handle} (has : memory.Has handle)
    (unused : (memory.queue handle).IsUnused) (limit : Nat) (session : Session)
    (mapping : List ConsumerMapping) (readers : Nat → Session) (actions : List Action)
    (inside : i < (memory.queue handle).consumers)
    (matched : (((start memory handle limit session mapping readers).run actions).ports
      i).mismatched = false) :
    let x := start memory handle limit session mapping readers
    let port := (x.run actions).ports i
    ∃ taken, taken <+: port.accepted ∧ List.Forall₂ (· <:+ ·) port.delivered taken ∧
      (port.delivered = taken ↔ x.Along (fun y action => ¬ y.TakesRest i action) actions) := by
  intro x port
  have sound : x.Sound (memory.queue handle).consumers :=
    Sound.start has unused limit session mapping readers
  have ended := sound.run actions
  obtain ⟨skip, queue, -, -, taken, order, ends⟩ :=
    ended.ports i (ended.size ▸ inside) matched
  refine ⟨taken, ⟨queue, order.symm⟩, ends, ?_⟩
  have whole : port.delivered = taken ↔ port.delivered <+: port.accepted := by
    constructor
    · intro same
      exact ⟨queue, by rw [same]; exact order.symm⟩
    · intro prefixed
      obtain ⟨left, split⟩ := prefixed
      rw [order] at split
      exact (List.append_inj split ends.length_eq).1
  rw [whole, sound.run_isPrefix_iff inside actions matched]
  exact and_iff_right (List.prefix_refl [])

/-- A reader gives up inside a record of two bytes, and reads on when the rest is there. -/
def abandonedRead : List Action :=
  [.write 0 [1, 2], .finish, .read 0 true, .abandon 0 ⟨true, 1, true⟩, .finish, .read 0 true]

theorem delivered_whole_iff_abandonedRead :
    ∃ taken, taken <+: ((narrowStart.run abandonedRead).ports 0).accepted ∧
      List.Forall₂ (· <:+ ·) ((narrowStart.run abandonedRead).ports 0).delivered taken ∧
      (((narrowStart.run abandonedRead).ports 0).delivered = taken ↔
        narrowStart.Along (fun y action => ¬ y.TakesRest 0 action) abandonedRead) :=
  delivered_whole_iff narrow_has narrow_isUnused 64 default [] (fun _ => default) abandonedRead
    (by decide) (by decide +kernel)

/-- The rest of an abandoned record comes out as a record that nobody wrote. -/
theorem delivers_fragment :
    [2] ∈ ((narrowStart.run abandonedRead).ports 0).delivered ∧
      [2] ∉ ((narrowStart.run abandonedRead).ports 0).accepted := by
  decide +kernel

end RecordExchange.Exchange
