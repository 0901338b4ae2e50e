import RecordExchange.Proofs.Commons.Changes
import RecordExchange.Proofs.Queue.Signals

set_option autoImplicit false

/-!
Which moves wake a sleeping reader.

A reader sleeps on its latch without a limit of time, so whoever gives it something to see has to
set the latch. A producer always does, at every step of every call. A session that gives its claim
up, and one that reports a reader's end, may close the slot as well, and do not.
-/

namespace RecordExchange

namespace Segment

variable {s t : Segment} {h k : Handle} {i : Nat} {R : Lane → Lane → Prop}

section Readers

/-! A reader sees its slot through the entry and its latch through the block its own handle names;
both may be those of the queue at work, or one of them, or none. -/

/-- Only lanes of the queue at work have news for a reader. -/
theorem Changes.stirs (changes : Changes R s t h)
    (stirs : (s.lane k i).Stirs (t.lane k i)) :
    k.entry = h.entry ∧ i < (s.queue h).consumers := by
  have news : (s.lane k i).slot ≠ (t.lane k i).slot := by
    intro same
    rw [Lane.Stirs, same] at stirs
    rcases stirs with ⟨none, some⟩ | ⟨active, ended⟩
    · exact some none
    · exact ended active
  have own : k.entry = h.entry := by
    by_contra other
    refine news ?_
    change (s.entries.getD k.entry default).slots.getD i default =
      (t.entries.getD k.entry default).slots.getD i default
    rw [changes.slots k.entry other]
  refine ⟨own, ?_⟩
  by_contra outside
  refine news ?_
  have before : (s.entries.getD h.entry default).slots.size ≤ i := Nat.le_of_not_lt outside
  have after : (t.entries.getD h.entry default).slots.size ≤ i :=
    Nat.le_trans (Nat.le_of_eq changes.consumers) before
  change (s.entries.getD k.entry default).slots.getD i default =
    (t.entries.getD k.entry default).slots.getD i default
  rw [own, getD_outside before, getD_outside after]

theorem Changes.latch_other (changes : Changes R s t h) (other : k.block ≠ h.block) :
    (t.lane k i).latch = (s.lane k i).latch := by
  change (t.blocks.getD k.block default).consumers.getD i default =
    (s.blocks.getD k.block default).consumers.getD i default
  rw [changes.latches k.block other]

theorem lane_of_same (s : Segment) (entry : k.entry = h.entry) (block : k.block = h.block)
    (i : Nat) : s.lane k i = s.lane h i := by
  rw [lane, lane, queue, queue, entry, block]

/-- News that come with a signal reach the readers whose latch is that queue's. -/
theorem Changes.told (changes : Changes Lane.Tells s t h)
    (stirs : (s.lane k i).Stirs (t.lane k i)) :
    (t.lane k i).latch.isSet = true ↔
      (s.lane k i).latch.isSet = true ∨ h.block = k.block := by
  obtain ⟨entry, inside⟩ := changes.stirs stirs
  by_cases block : k.block = h.block
  · rw [lane_of_same s entry block, lane_of_same t entry block] at stirs ⊢
    have set := (changes.own i inside).isSet stirs
    exact ⟨fun _ => .inr block.symm, fun _ => set⟩
  · rw [changes.latch_other block]
    exact ⟨.inl, fun known => known.resolve_right fun same => block same.symm⟩

theorem Changes.untold (changes : Changes Lane.Mute s t h)
    (stirs : (s.lane k i).Stirs (t.lane k i)) :
    (t.lane k i).latch.isSet = (s.lane k i).latch.isSet := by
  obtain ⟨entry, inside⟩ := changes.stirs stirs
  by_cases block : k.block = h.block
  · rw [lane_of_same s entry block, lane_of_same t entry block] at stirs ⊢
    exact changes.own i inside stirs
  · rw [changes.latch_other block]

end Readers

/-- A queue that is laid out has no news for anybody: its slots are active and empty. -/
theorem format_silent (s : Segment) (e b : Nat) (name : String) (consumers ringLen : Nat) :
    ¬ (s.lane k i).Stirs ((s.setQueueAt e b
      ⟨(s.queueAt e b).entry.format name consumers ringLen b,
        (s.queueAt e b).sync.assign e consumers⟩).lane k i) := by
  let t := s.setQueueAt e b ⟨(s.queueAt e b).entry.format name consumers ringLen b,
    (s.queueAt e b).sync.assign e consumers⟩
  have slot : (t.lane k i).slot = (s.lane k i).slot ∨
      (t.lane k i).slot.ring.rows = 0 ∧ (t.lane k i).slot.status = .active := by
    change (t.entries.getD k.entry default).slots.getD i default = _ ∨
      ((t.entries.getD k.entry default).slots.getD i default).ring.rows = 0 ∧
        ((t.entries.getD k.entry default).slots.getD i default).status = .active
    rw [show t.entries.getD k.entry default = _ from getD_setIfInBounds ..]
    by_cases own : e = k.entry ∧ k.entry < s.entries.size
    · right
      rw [if_pos own]
      simp only [Entry.format, Array.getD_eq_getD_getElem?, Array.getElem?_ofFn]
      split
      · exact ⟨rfl, rfl⟩
      · exact ⟨rfl, rfl⟩
    · left
      rw [if_neg own]
      rfl
  intro stirs
  change (s.lane k i).Stirs (t.lane k i) at stirs
  rcases slot with same | ⟨none, active⟩
  · rw [Lane.Stirs, same] at stirs
    rcases stirs with ⟨none, some⟩ | ⟨active, ended⟩
    · exact some none
    · exact ended active
  · rcases stirs with ⟨-, some⟩ | ⟨-, ended⟩
    · exact some none
    · exact ended active

end Segment

theorem Lane.not_stirs_self (l : Lane) : ¬ l.Stirs l := by
  rintro (⟨none, some⟩ | ⟨active, ended⟩)
  · exact some none
  · exact ended active

namespace Commons

variable {x : Commons}

/-- The move is that of a producer whose readers sleep on the latches of block `b`. -/
def IsProducerOn (x : Commons) (b : Nat) : Move → Prop
  | .produce k _ => ∃ seat, x.producers[k]? = some seat ∧ seat.producer.handle.block = b
  | _ => False

def laneOf (x : Commons) (seat : ConsumerSeat) : Lane :=
  x.memory.lane seat.consumer.handle seat.consumer.index

/-- A claim has no news for a reader, whether it lays a queue out or joins one. -/
theorem acquire_mute (founded : x.Founded) (live : Liveness) (session : Session) (name : String)
    (consumers : Nat) {k : Handle} {i : Nat}
    (stirs : (x.memory.lane k i).Stirs
      ((x.acquire live session name consumers).memory.lane k i)) :
    ((x.acquire live session name consumers).memory.lane k i).latch.isSet =
      (x.memory.lane k i).latch.isSet := by
  rcases acquire_changes founded Lane.mute_obeys.refl live session name consumers with
    ⟨⟨h, changes⟩, -⟩ | ⟨e, b, -, -, -, -, laid⟩
  · exact changes.untold stirs
  · rw [laid] at stirs
    exact absurd stirs (Segment.format_silent x.memory e b name consumers _)

/-- Every move that has news for a reader signals it exactly if it is the work of a producer on its
queue, and otherwise leaves its latch as it was. -/
theorem perform_signals (founded : x.Founded) (move : Move) {k : Handle} {i : Nat}
    (stirs : (x.memory.lane k i).Stirs ((x.perform move).memory.lane k i)) :
    ((x.perform move).memory.lane k i).latch.isSet = true ↔
      (x.memory.lane k i).latch.isSet = true ∨ x.IsProducerOn k.block move := by
  have mute {t : Segment} {told : Prop} (no : ¬ told)
      (same : (t.lane k i).latch.isSet = (x.memory.lane k i).latch.isSet) :
      (t.lane k i).latch.isSet = true ↔ (x.memory.lane k i).latch.isSet = true ∨ told := by
    rw [same]
    exact ⟨.inl, fun known => known.resolve_right no⟩
  cases move with
  | acquire live session name consumers => exact mute id (acquire_mute founded _ _ _ _ stirs)
  | bind live session name consumerNodes distribution limit =>
    obtain ⟨h, changes⟩ := bind_changes founded Lane.mute_obeys.refl Lane.mute_obeys.takesUp
      Lane.mute_obeys.attaches live session name consumerNodes distribution limit
    exact mute id (changes.untold stirs)
  | release live session name =>
    obtain ⟨h, changes⟩ := release_changes founded Lane.mute_obeys.refl Lane.mute_obeys.releases live
      session name
    exact mute id (changes.untold stirs)
  | disconnect live session name =>
    obtain ⟨h, changes⟩ := disconnect_changes founded Lane.mute_obeys.refl Lane.mute_obeys.disconnects
      live session name
    exact mute id (changes.untold stirs)
  | produce n move =>
    cases here : x.producers[n]? with
    | none =>
      simp only [perform, produce, here] at stirs
      exact absurd stirs (Lane.not_stirs_self _)
    | some seat =>
      have changes := produce_changes founded Lane.tells_obeys here move
      refine (changes.told stirs).trans ?_
      refine or_congr Iff.rfl ⟨fun same => ⟨seat, here, same⟩, ?_⟩
      rintro ⟨other, found, same⟩
      rw [here] at found
      cases found
      exact same
  | consume n move =>
    cases here : x.consumers[n]? with
    | none =>
      simp only [perform, consume, here] at stirs
      exact absurd stirs (Lane.not_stirs_self _)
    | some seat =>
      exact mute id ((consume_changes founded Lane.mute_obeys.toReadersObey here move).untold stirs)

/-- After every run, whatever party moves next: if the move makes a row ready where there was none
in the slot of a consumer, or ends the slot's activity, then the consumer, asleep or not, finds its
latch set afterwards exactly if it was set before or the move is that of a producer on its queue.
Nobody else wakes it. -/
theorem reader_signalled_iff (c : Config) (creator : ProcessId) (moves : List Move)
    (move : Move) :
    let x := (start c creator).run moves
    ∀ seat ∈ x.consumers, (x.laneOf seat).Stirs ((x.perform move).laneOf seat) →
      (((x.perform move).laneOf seat).latch.isSet = true ↔
        (x.laneOf seat).latch.isSet = true ∨
          x.IsProducerOn seat.consumer.handle.block move) := by
  intro x seat _ stirs
  exact perform_signals ((Founded.start c creator).run moves) move stirs

/-- A producer and a consumer are bound, and the consumer goes to sleep on its empty buffer. -/
def sleepingReader : List Move :=
  [.acquire undisturbed ⟨100, 0⟩ "rows" 1, .acquire undisturbed ⟨101, 1⟩ "rows" 1,
    .bind undisturbed ⟨100, 0⟩ "rows" [1] [0, 1] 64,
    .bind undisturbed ⟨101, 1⟩ "rows" [1] [0, 1] 64,
    .consume 0 (.read true)]

/-- The producer writes, and the sleeping consumer is woken. -/
theorem reader_signalled_iff_write :
    ∃ seat, ((start narrow 1).run sleepingReader).consumers = [seat] ∧
      seat.reading = some .row ∧
      (((start narrow 1).run sleepingReader).laneOf seat).Stirs
        ((((start narrow 1).run sleepingReader).perform
          (.produce 0 (.call (.write 0 [7])))).laneOf seat) ∧
      ((((start narrow 1).run sleepingReader).perform
        (.produce 0 (.call (.write 0 [7])))).laneOf seat).latch.isSet = true := by
  have bound : ((start narrow 1).run sleepingReader).producers.map
      (fun seat => seat.producer.handle) = [⟨0, 0, "rows"⟩] := by decide +kernel
  have asleep : ((start narrow 1).run sleepingReader).consumers.map (fun seat =>
      (seat.reading, seat.consumer.handle.block,
        decide ((((start narrow 1).run sleepingReader).laneOf seat).Stirs
          ((((start narrow 1).run sleepingReader).perform
            (.produce 0 (.call (.write 0 [7])))).laneOf seat)))) =
      [(some .row, 0, true)] := by decide +kernel
  obtain ⟨producer, single, handle⟩ := List.map_eq_singleton_iff.mp bound
  obtain ⟨seat, only, found⟩ := List.map_eq_singleton_iff.mp asleep
  simp only [Prod.mk.injEq, decide_eq_true_eq] at found
  obtain ⟨sleeps, block, stirs⟩ := found
  have member : seat ∈ ((start narrow 1).run sleepingReader).consumers := by
    rw [only]
    exact List.mem_singleton_self seat
  refine ⟨seat, only, sleeps, stirs, (reader_signalled_iff narrow 1 sleepingReader
    (.produce 0 (.call (.write 0 [7]))) seat member stirs).mpr (.inr ⟨producer, ?_, ?_⟩)⟩
  · rw [single]
    rfl
  · rw [handle, block]

/-- A reader's end is reported, or its session's claim given up, while it sleeps: its slot is done,
and nobody wakes it. -/
theorem closed_slot_leaves_reader_asleep :
    let x := (start narrow 1).run sleepingReader
    ∀ move ∈ [Move.disconnect undisturbed ⟨102, 1⟩ "rows", .release undisturbed ⟨101, 1⟩ "rows"],
      x.consumers.map (fun seat => (seat.reading, (x.laneOf seat).slot.status,
          ((x.perform move).laneOf seat).slot.status,
          ((x.perform move).laneOf seat).latch.isSet)) =
        [(some .row, .active, .done, false)] := by
  decide +kernel

end Commons

end RecordExchange
