import RecordExchange.Proofs.Commons.Actions
import RecordExchange.Proofs.Commons.Seats
import RecordExchange.Proofs.Exchange.Traffic

set_option autoImplicit false

/-!
One queue among all.

The parties at work on the queue in a place, taken by themselves, are an exchange, as long as the
queue has one producer and each of its slots one reader. Whatever is done anywhere is an action of
that exchange or leaves its buffers alone, so what every action of an exchange keeps up is kept up
for every queue of the segment.
-/

namespace RecordExchange.Commons

variable {x z : Commons} {e k : Nat} {among : Nat → Prop} {y : Exchange}

/-- The producer that was bound as number `k`, if it was bound to the queue that place `e` holds. -/
def producerAt (x : Commons) (e k : Nat) : Option ProducerSeat :=
  x.producers[k]?.bind fun seat =>
    if seat.producer.handle.entry = e ∧ seat.turn = x.turn e then some seat else none

/-- The reader that was bound as number `k`, if it was bound to the queue that place `e` holds, and
where it sleeps. -/
def readerAt (x : Commons) (e k : Nat) : Option (Consumer × Option ReadPoint) :=
  x.consumers[k]?.bind fun seat =>
    if seat.consumer.handle.entry = e ∧ seat.turn = x.turn e then
      some (seat.consumer, seat.reading)
    else none

theorem producerAt_eq_some {seat : ProducerSeat} : x.producerAt e k = some seat ↔
    x.producers[k]? = some seat ∧ seat.producer.handle.entry = e ∧ seat.turn = x.turn e := by
  simp only [producerAt, Option.bind_eq_some_iff, Option.ite_none_right_eq_some]
  constructor
  · rintro ⟨other, here, current, same⟩
    cases same
    exact ⟨here, current⟩
  · intro found
    exact ⟨seat, found.1, found.2, rfl⟩

theorem readerAt_eq_some {c : Consumer} {point : Option ReadPoint} :
    x.readerAt e k = some (c, point) ↔ ∃ seat, x.consumers[k]? = some seat ∧
      (seat.consumer.handle.entry = e ∧ seat.turn = x.turn e) ∧ seat.consumer = c ∧
        seat.reading = point := by
  simp only [readerAt, Option.bind_eq_some_iff, Option.ite_none_right_eq_some, Option.some.injEq,
    Prod.mk.injEq]

/-- The exchange `y` is what the parties at the queue in place `e` are to each other, and the slots
`among` are in order. -/
structure Enacts (x : Commons) (e : Nat) (among : Nat → Prop) (y : Exchange) : Prop where
  memory : y.memory = x.memory
  entry : y.producer.handle.entry = e
  block : y.producer.handle.block = (x.memory.register.title e).block
  sound : ∃ n, y.Sound n
  ordered : ∀ i, i < y.queue.consumers → among i → y.InOrder i
  producer : ∀ k seat, x.producerAt e k = some seat → seat = y.seat (x.turn e)
  vacant : (∀ k, x.producerAt e k = none) → y.stand = .bound ∧ ∀ i, y.held i = none
  reader : ∀ k c point, x.readerAt e k = some (c, point) →
    (y.ports c.index).consumer = c ∧ (y.ports c.index).reading = point
  idle : ∀ i, (∀ k c point, x.readerAt e k = some (c, point) → c.index ≠ i) →
    (y.ports i).reading = none

/-- All slots of the exchange are in order. -/
def Staged (x : Commons) (e : Nat) (y : Exchange) : Prop := x.Enacts e (fun _ => True) y

theorem Staged.calm (staged : x.Staged e y) (i : Nat) (inside : i < y.queue.consumers) :
    (y.ports i).Calm (y.slot i) :=
  (staged.ordered i inside trivial).calm

theorem pairwise_alone {α : Type} {R : α → α → Prop} {l : List α} (pairwise : l.Pairwise R)
    (symmetric : ∀ {a b}, R a b → R b a) {j : Nat} {a b : α} (first : l[j]? = some a)
    (second : l[k]? = some b) (apart : ¬ R a b) : j = k := by
  obtain ⟨inside, rfl⟩ := List.getElem?_eq_some_iff.mp first
  obtain ⟨within, rfl⟩ := List.getElem?_eq_some_iff.mp second
  have ordered := List.pairwise_iff_getElem.mp pairwise
  rcases Nat.lt_trichotomy j k with less | same | more
  · exact absurd (ordered j k inside within less) apart
  · exact same
  · exact absurd (symmetric (ordered k j within inside more)) apart

/-- A queue has one producer. -/
theorem Manned.producer_alone (manned : x.Manned) {j : Nat} {seat other : ProducerSeat}
    (first : x.producerAt e j = some seat) (second : x.producerAt e k = some other) : j = k := by
  obtain ⟨here, entry, turn⟩ := producerAt_eq_some.mp first
  obtain ⟨there, entry', turn'⟩ := producerAt_eq_some.mp second
  refine pairwise_alone manned.producers (fun apart same => apart ⟨same.1.symm, same.2.symm⟩)
    (a := seat.post) (b := other.post) ?_ ?_ ?_
  · rw [List.getElem?_map, here]
    rfl
  · rw [List.getElem?_map, there]
    rfl
  · intro apart
    exact apart ⟨entry.trans entry'.symm, turn.trans turn'.symm⟩

/-- A slot has one reader. -/
theorem Manned.reader_alone (manned : x.Manned) {j : Nat} {c d : Consumer}
    {point point' : Option ReadPoint} (first : x.readerAt e j = some (c, point))
    (second : x.readerAt e k = some (d, point')) (same : c.index = d.index) : j = k := by
  obtain ⟨seat, here, ⟨entry, turn⟩, rfl, -⟩ := readerAt_eq_some.mp first
  obtain ⟨other, there, ⟨entry', turn'⟩, rfl, -⟩ := readerAt_eq_some.mp second
  refine pairwise_alone manned.readers (fun apart same => apart ⟨same.1.symm, same.2.symm⟩)
    (a := seat.post) (b := other.post) ?_ ?_ ?_
  · rw [List.getElem?_map, here]
    rfl
  · rw [List.getElem?_map, there]
    rfl
  · intro apart
    exact apart ⟨entry.trans entry'.symm, Prod.ext (turn.trans turn'.symm) same⟩

namespace Enacts

variable (enacts : x.Enacts e among y)
include enacts

theorem place : x.memory.Has y.producer.handle := by
  obtain ⟨n, sound⟩ := enacts.sound
  rw [← enacts.memory]
  exact sound.has

theorem queue_eq : y.queue = x.memory.queueAt e (x.memory.register.title e).block := by
  rw [Exchange.queue, enacts.memory, Segment.queue, enacts.entry, enacts.block]

theorem consumers_eq : y.queue.consumers = (x.memory.entries.getD e default).slots.size := by
  rw [enacts.queue_eq]
  rfl

theorem slot_eq (i : Nat) : y.slot i = x.memory.slotAt e i := by
  rw [Exchange.slot, enacts.queue_eq]
  rfl

end Enacts

theorem set_bind {α β : Type} {l : List α} (inside : k < l.length) (a : α) (f : α → Option β)
    (j : Nat) : (l.set k a)[j]?.bind f = if j = k then f a else l[j]?.bind f := by
  by_cases own : j = k
  · subst own
    rw [List.getElem?_set_self inside, if_pos rfl]
    rfl
  · rw [List.getElem?_set_ne (Ne.symm own), if_neg own]

theorem append_bind {α β : Type} (l : List α) (a : α) (f : α → Option β) (j : Nat) :
    (l ++ [a])[j]?.bind f = if j = l.length then f a else l[j]?.bind f := by
  rcases Nat.lt_trichotomy j l.length with before | rfl | after
  · rw [List.getElem?_append_left before, if_neg (Nat.ne_of_lt before)]
  · rw [List.getElem?_concat_length, if_pos rfl]
    rfl
  · rw [if_neg (Nat.ne_of_gt after), List.getElem?_eq_none (Nat.le_of_lt after),
      List.getElem?_eq_none (by rw [List.length_append, List.length_singleton]; omega)]

theorem produce_producerAt {seat : ProducerSeat} (here : x.producers[k]? = some seat)
    (move : ProducerMove) (j : Nat) :
    (x.produce k move).producerAt e j =
      if j = k then
        if seat.producer.handle.entry = e ∧ seat.turn = x.turn e then
          some (seat.step x.memory move).1
        else none
      else x.producerAt e j := by
  have inside : k < x.producers.length := (List.getElem?_eq_some_iff.mp here).1
  have post := seat.step_post x.memory move
  have handle : (seat.step x.memory move).1.producer.handle = seat.producer.handle :=
    congrArg Prod.fst post
  have turn : (seat.step x.memory move).1.turn = seat.turn := congrArg Prod.snd post
  simp only [produce, here, producerAt, set_bind inside, handle, turn]
  rfl

theorem consume_readerAt {seat : ConsumerSeat} (here : x.consumers[k]? = some seat)
    (move : ConsumerMove) (j : Nat) :
    (x.consume k move).readerAt e j =
      if j = k then
        if seat.consumer.handle.entry = e ∧ seat.turn = x.turn e then
          some ((seat.step (x.memory.queue seat.consumer.handle) move).1.consumer,
            (seat.step (x.memory.queue seat.consumer.handle) move).1.reading)
        else none
      else x.readerAt e j := by
  have inside : k < x.consumers.length := (List.getElem?_eq_some_iff.mp here).1
  have post := seat.step_post (x.memory.queue seat.consumer.handle) move
  have handle : (seat.step (x.memory.queue seat.consumer.handle) move).1.consumer.handle =
      seat.consumer.handle := congrArg Prod.fst post
  have turn : (seat.step (x.memory.queue seat.consumer.handle) move).1.turn = seat.turn :=
    congrArg (fun p => p.2.1) post
  simp only [consume, here, readerAt, set_bind inside, handle, turn]
  rfl

section Newcomers

/-! Who is at a queue once somebody more was bound, there or elsewhere. -/

variable {move : Move} {seat : ProducerSeat} {reader : ConsumerSeat}
  (turn : (x.perform move).turn e = x.turn e)

include turn

theorem append_producerAt (producers : (x.perform move).producers = x.producers ++ [seat])
    (j : Nat) :
    (x.perform move).producerAt e j = if j = x.producers.length then
      if seat.producer.handle.entry = e ∧ seat.turn = x.turn e then some seat else none
      else x.producerAt e j := by
  rw [producerAt, producers, turn]
  exact append_bind ..

theorem append_producerAt_elsewhere
    (producers : (x.perform move).producers = x.producers ++ [seat])
    (other : seat.producer.handle.entry ≠ e) :
    (x.perform move).producerAt e = x.producerAt e := by
  funext j
  rw [append_producerAt turn producers]
  split
  · rename_i last
    subst last
    rw [if_neg fun here => other here.1, producerAt, List.getElem?_eq_none (Nat.le_refl _)]
    rfl
  · rfl

theorem append_readerAt (readers : (x.perform move).consumers = x.consumers ++ [reader])
    (j : Nat) :
    (x.perform move).readerAt e j = if j = x.consumers.length then
      if reader.consumer.handle.entry = e ∧ reader.turn = x.turn e then
        some (reader.consumer, reader.reading) else none
      else x.readerAt e j := by
  rw [readerAt, readers, turn]
  exact append_bind ..

theorem append_readerAt_elsewhere
    (readers : (x.perform move).consumers = x.consumers ++ [reader])
    (other : reader.consumer.handle.entry ≠ e) : (x.perform move).readerAt e = x.readerAt e := by
  funext j
  rw [append_readerAt turn readers]
  split
  · rename_i last
    subst last
    rw [if_neg fun here => other here.1, readerAt, List.getElem?_eq_none (Nat.le_refl _)]
    rfl
  · rfl

theorem same_producerAt (producers : (x.perform move).producers = x.producers) :
    (x.perform move).producerAt e = x.producerAt e := by
  funext j
  rw [producerAt, producers, turn]
  rfl

theorem same_readerAt (readers : (x.perform move).consumers = x.consumers) :
    (x.perform move).readerAt e = x.readerAt e := by
  funext j
  rw [readerAt, readers, turn]
  rfl

end Newcomers

section LaidOut

/-! Nobody is at a queue that was just laid out. -/

variable {move : Move} (manned : x.Manned) (later : x.turn e < (x.perform move).turn e)

include manned later

theorem laidOut_producerAt (producers : (x.perform move).producers = x.producers) (k : Nat) :
    (x.perform move).producerAt e k = none := by
  rw [Option.eq_none_iff_forall_ne_some]
  intro seat found
  obtain ⟨here, rfl, current⟩ := producerAt_eq_some.mp found
  rw [producers] at here
  have past := manned.bound_past here
  omega

theorem laidOut_readerAt (readers : (x.perform move).consumers = x.consumers) (k : Nat) :
    (x.perform move).readerAt e k = none := by
  rw [Option.eq_none_iff_forall_ne_some]
  rintro ⟨c, point⟩ found
  obtain ⟨seat, here, ⟨rfl, current⟩, -⟩ := readerAt_eq_some.mp found
  rw [readers] at here
  have past := manned.attached_past here
  omega

end LaidOut

/-- As an action, a move gives up inside a long record if its reader stands inside one and the move
gives up. -/
theorem givesUpInside_action {move : ConsumerMove} {action : Action} {i j : Nat}
    (same : move.action? i = some action) (gives : y.GivesUpInside j action) :
    i = j ∧ ∃ live, move = .abandon live ∧ live.check ≠ .ok () ∧ (y.ports j).isInside = true := by
  cases move with
  | abandon live =>
    cases same
    obtain ⟨here, failed, inside⟩ := gives
    exact ⟨here, live, rfl, failed, inside⟩
  | drop => cases same
  | _ =>
    cases same
    cases gives

section Moves

variable (founded : x.Founded)
include founded

theorem Enacts.place_perform (enacts : x.Enacts e among y) (move : Move) :
    (x.perform move).memory.Has y.producer.handle := by
  have place := enacts.place
  have built := founded.built
  have after := (perform_step founded move).2
  exact ⟨by rw [after.entries, ← built.entries]; exact place.entry,
    by rw [after.blocks, ← built.blocks]; exact place.block⟩

theorem Enacts.block_perform (enacts : x.Enacts e among y) (move : Move)
    (same : (x.perform move).turn e = x.turn e) :
    y.producer.handle.block = ((x.perform move).memory.register.title e).block :=
  enacts.block.trans ((perform_step founded move).1.block same).symm

/-- A move on which a queue rests, and nobody at it moves. -/
theorem Enacts.rests (enacts : x.Enacts e among y) {move : Move}
    (same : (x.perform move).turn e = x.turn e)
    (rests : x.memory.Slotwise Slot.Rests (x.perform move).memory e)
    (producers : (x.perform move).producerAt e = x.producerAt e)
    (readers : (x.perform move).readerAt e = x.readerAt e) :
    (x.perform move).Enacts e among { y with memory := (x.perform move).memory } := by
  obtain ⟨n, sound⟩ := enacts.sound
  rw [← enacts.memory, ← enacts.entry] at rests
  have place := enacts.place_perform founded move
  refine ⟨rfl, enacts.entry, enacts.block_perform founded move same,
    ⟨n, sound.rests place rests⟩, ?_, ?_, ?_, ?_, ?_⟩
  · intro i inside
    have before : i < y.queue.consumers := Nat.lt_of_lt_of_le inside (Nat.le_of_eq rests.size)
    exact fun own => (enacts.ordered i before own).rests (rests.slots i) ⟨_, rfl⟩ fun bound =>
      ⟨bound, rfl⟩
  · rw [producers, same]
    exact enacts.producer
  · rw [producers]
    exact enacts.vacant
  · rw [readers]
    exact enacts.reader
  · rw [readers]
    exact enacts.idle

/-- After an action of the parties at a queue, what the slots carry is accounted for, and those
slots are in order whose reader gave up inside no long record. -/
theorem Enacts.acted (enacts : x.Enacts e among y) {move : Move} {action : Action}
    (same : (x.perform move).turn e = x.turn e)
    (memory : (y.perform action).1.memory = (x.perform move).memory)
    (entry : (y.perform action).1.producer.handle.entry = e)
    (stays : ∀ i, among i → ¬ y.GivesUpInside i action) :
    (∃ n, (y.perform action).1.Sound n) ∧
      ∀ i, i < (y.perform action).1.queue.consumers → among i →
        (y.perform action).1.InOrder i := by
  obtain ⟨n, sound⟩ := enacts.sound
  refine ⟨⟨n, sound.perform action⟩, ?_⟩
  intro i inside own
  have before : i < y.queue.consumers := by
    rw [sound.size, ← (sound.perform action).size]
    exact inside
  have lives := (perform_livesOn founded move same).slots i
  have after : (y.perform action).1.slot i = (x.perform move).memory.slotAt e i := by
    rw [Exchange.slot, Exchange.queue, memory, Segment.queue, entry]
    rfl
  rw [← enacts.slot_eq, ← after] at lives
  exact (enacts.ordered i before own).perform sound before (stays i own) lives

section Producer

variable {seat : ProducerSeat}

/-- A producer's move away from a queue, or one on which the producer stays as it is and the queue
rests. -/
theorem Enacts.produce_rests (enacts : x.Enacts e among y) (here : x.producers[k]? = some seat)
    (move : ProducerMove)
    (rests : x.memory.Slotwise Slot.Rests (x.produce k move).memory e)
    (still : seat.producer.handle.entry = e → (seat.step x.memory move).1 = seat) :
    (x.perform (.produce k move)).Enacts e among
      { y with memory := (x.produce k move).memory } := by
  have turn : (x.perform (.produce k move)).turn e = x.turn e := x.produce_turn k move e
  apply enacts.rests founded turn rests
  · funext j
    rw [perform, produce_producerAt here]
    split
    · rename_i own
      subst own
      by_cases entry : seat.producer.handle.entry = e
      · rw [still entry, producerAt, here]
        rfl
      · rw [if_neg fun current => entry current.1, producerAt, here, Option.bind_some,
          if_neg fun current => entry current.1]
    · rfl
  · exact same_readerAt turn (produce_consumers x k move)

theorem Enacts.produce_acts (enacts : x.Enacts e among y) (manned : x.Manned)
    (current : x.producerAt e k = some seat) {move : ProducerMove} {action : Action}
    (same : move.action? = some action) :
    (x.perform (.produce k move)).Enacts e among (y.perform action).1 := by
  obtain ⟨here, place⟩ := producerAt_eq_some.mp current
  have own := enacts.producer k seat current
  obtain ⟨stepped, ports⟩ := y.perform_seat (x.turn e) same
  rw [enacts.memory, ← own] at stepped
  have memory : (y.perform action).1.memory = (x.perform (.produce k move)).memory := by
    simp only [perform, produce, here, stepped]
  have turn : (x.perform (.produce k move)).turn e = x.turn e := x.produce_turn k move e
  have handle : (y.perform action).1.producer.handle = y.producer.handle := by
    have post := congrArg Prod.fst (seat.step_post x.memory move)
    rw [stepped, own] at post
    exact post
  have listed (j : Nat) : (x.perform (.produce k move)).producerAt e j =
      if j = k then some ((y.perform action).1.seat (x.turn e)) else x.producerAt e j := by
    rw [perform, produce_producerAt here, if_pos place, stepped]
  have readers (j : Nat) : (x.perform (.produce k move)).readerAt e j = x.readerAt e j :=
    congrFun (same_readerAt turn (produce_consumers x k move)) j
  have stays (i : Nat) (_ : among i) : ¬ y.GivesUpInside i action := by
    cases move with
    | call c => cases c <;> cases same <;> exact id
    | _ =>
      cases same
      exact id
  have entry : (y.perform action).1.producer.handle.entry = e := by rw [handle, enacts.entry]
  obtain ⟨sound, ordered⟩ := enacts.acted founded turn memory entry stays
  refine ⟨memory, entry, ?_, sound, ordered, ?_, ?_, ?_, ?_⟩
  · rw [handle]
    exact enacts.block_perform founded _ turn
  · intro j other found
    rw [listed] at found
    rw [turn]
    split at found
    · exact (Option.some.inj found).symm
    · rename_i elsewhere
      exact absurd (manned.producer_alone found current) elsewhere
  · intro vacant
    have taken := vacant k
    rw [listed, if_pos rfl] at taken
    cases taken
  · intro j c point found
    rw [readers] at found
    rw [(ports c.index).1, (ports c.index).2]
    exact enacts.reader j c point found
  · intro i free
    rw [(ports i).2]
    apply enacts.idle
    intro j c point found
    exact free j c point ((readers j).trans found)

theorem Enacts.produce (enacts : x.Enacts e among y) (manned : x.Manned)
    (here : x.producers[k]? = some seat)
    (current : seat.turn = x.turn seat.producer.handle.entry) (move : ProducerMove) :
    ∃ w, (x.perform (.produce k move)).Enacts e among w := by
  by_cases own : seat.producer.handle.entry = e
  · have listed : x.producerAt e k = some seat :=
      producerAt_eq_some.mpr ⟨here, own, by rw [← own]; exact current⟩
    cases same : move.action? with
    | some action => exact ⟨_, enacts.produce_acts founded manned listed same⟩
    | none =>
      have handle : seat.producer.handle = y.producer.handle :=
        congrArg (fun seat => seat.producer.handle) (enacts.producer k seat listed)
      obtain ⟨still, changes⟩ := seat.step_rests (handle ▸ enacts.place) same
      have memory : (x.produce k move).memory = (seat.step x.memory move).2 := by
        simp only [Commons.produce, here]
      rw [← memory] at changes
      exact ⟨_, enacts.produce_rests founded here move (changes.slotwise Slot.Rests.refl e)
        fun _ => still⟩
  · have rests := (produce_changes founded Lane.proceeds_obeys here move).slots e (Ne.symm own)
    exact ⟨_, enacts.produce_rests founded here move (.of_same Slot.Rests.refl rests)
      fun entry => absurd entry own⟩

end Producer

section Reader

variable {seat : ConsumerSeat}

/-- A reader's move away from a queue, or one on which the reader stands as before and the queue
rests. -/
theorem Enacts.consume_rests (enacts : x.Enacts e among y) (here : x.consumers[k]? = some seat)
    (move : ConsumerMove) (rests : x.memory.Slotwise Slot.Rests (x.consume k move).memory e)
    (still : seat.consumer.handle.entry = e →
      (seat.step (x.memory.queue seat.consumer.handle) move).1.consumer = seat.consumer ∧
        (seat.step (x.memory.queue seat.consumer.handle) move).1.reading = seat.reading) :
    (x.perform (.consume k move)).Enacts e among
      { y with memory := (x.consume k move).memory } := by
  have turn : (x.perform (.consume k move)).turn e = x.turn e := x.consume_turn k move e
  apply enacts.rests founded turn rests
  · exact same_producerAt turn (consume_producers x k move)
  · funext j
    rw [perform, consume_readerAt here]
    split
    · rename_i own
      subst own
      by_cases entry : seat.consumer.handle.entry = e
      · rw [(still entry).1, (still entry).2, readerAt, here]
        rfl
      · rw [if_neg fun current => entry current.1, readerAt, here, Option.bind_some,
          if_neg fun current => entry current.1]
    · rfl

theorem Enacts.consume_acts (enacts : x.Enacts e among y) (manned : x.Manned)
    (here : x.consumers[k]? = some seat)
    (place : seat.consumer.handle.entry = e ∧ seat.turn = x.turn e) (opened : seat.isOpen = true)
    {move : ConsumerMove} {action : Action}
    (same : move.action? seat.consumer.index = some action)
    (stays : ∀ live, move = .abandon live → live.check ≠ .ok () → among seat.consumer.index →
      seat.reading.any ReadPoint.isInside = false) :
    (x.perform (.consume k move)).Enacts e among (y.perform action).1 := by
  have current : x.readerAt e k = some (seat.consumer, seat.reading) :=
    readerAt_eq_some.mpr ⟨seat, here, place, rfl, rfl⟩
  obtain ⟨consumer, reading⟩ := enacts.reader k _ _ current
  obtain ⟨block, within, -⟩ := manned.attached_at here place
  have queue : y.queue = x.memory.queue seat.consumer.handle := by
    rw [enacts.queue_eq, block, Segment.queue, place.1]
  have inside : seat.consumer.index < y.queue.consumers := by
    rw [enacts.consumers_eq]
    exact within
  have seated := Exchange.perform_seated consumer reading opened inside same
  rw [queue] at seated
  have memory : (y.perform action).1.memory = (x.perform (.consume k move)).memory := by
    simp only [perform, consume, here]
    rw [seated.memory, enacts.memory, Segment.setQueue, Segment.setQueue, enacts.entry,
      enacts.block, block, place.1]
  have turn : (x.perform (.consume k move)).turn e = x.turn e := x.consume_turn k move e
  have producer : (y.perform action).1.producer = y.producer :=
    congrArg ProducerSeat.producer (seated.seat 0)
  have stand : (y.perform action).1.stand = y.stand := congrArg ProducerSeat.stand (seated.seat 0)
  have index : (seat.step (x.memory.queue seat.consumer.handle) move).1.consumer.index =
      seat.consumer.index :=
    congrArg (fun post => post.2.2) (seat.step_post (x.memory.queue seat.consumer.handle) move)
  have listed (j : Nat) : (x.perform (.consume k move)).readerAt e j =
      if j = k then some ((seat.step (x.memory.queue seat.consumer.handle) move).1.consumer,
        (seat.step (x.memory.queue seat.consumer.handle) move).1.reading)
      else x.readerAt e j := by
    rw [perform, consume_readerAt here, if_pos place]
  have producers (j : Nat) : (x.perform (.consume k move)).producerAt e j = x.producerAt e j :=
    congrFun (same_producerAt turn (consume_producers x k move)) j
  have calm (i : Nat) (own : among i) : ¬ y.GivesUpInside i action := by
    intro gives
    obtain ⟨rfl, live, given, failed, inside⟩ := givesUpInside_action same gives
    rw [Port.isInside, reading, stays live given failed own] at inside
    cases inside
  have entry : (y.perform action).1.producer.handle.entry = e := by rw [producer, enacts.entry]
  obtain ⟨sound, ordered⟩ := enacts.acted founded turn memory entry calm
  refine ⟨memory, entry, ?_, sound, ordered, ?_, ?_, ?_, ?_⟩
  · rw [producer]
    exact enacts.block_perform founded _ turn
  · intro j other found
    rw [producers] at found
    rw [turn, seated.seat]
    exact enacts.producer j other found
  · intro vacant
    rw [stand]
    have free := enacts.vacant fun j => (producers j).symm.trans (vacant j)
    refine ⟨free.1, fun i => ?_⟩
    rw [Exchange.held, producer]
    exact free.2 i
  · intro j c point found
    rw [listed] at found
    split at found
    · cases found
      rw [index]
      exact ⟨seated.consumer, seated.reading⟩
    · rename_i elsewhere
      have apart : c.index ≠ seat.consumer.index :=
        fun same => elsewhere (manned.reader_alone found current same)
      rw [seated.others _ apart]
      exact enacts.reader j c point found
  · intro i free
    have apart : i ≠ seat.consumer.index := by
      intro here
      refine free k (seat.step (x.memory.queue seat.consumer.handle) move).1.consumer
        (seat.step (x.memory.queue seat.consumer.handle) move).1.reading ?_ (index.trans here.symm)
      rw [listed, if_pos rfl]
    rw [seated.others i apart]
    apply enacts.idle
    intro j c point found
    by_cases own : j = k
    · subst own
      rw [current] at found
      cases found
      exact Ne.symm apart
    · refine free j c point ?_
      rw [listed, if_neg own]
      exact found

/-- Whatever a reader does that gives up inside no long record of the slots in order, at a queue
with one reader for each slot. -/
theorem Enacts.consume (enacts : x.Enacts e among y) (manned : x.Manned)
    (here : x.consumers[k]? = some seat)
    (current : seat.turn = x.turn seat.consumer.handle.entry) {move : ConsumerMove}
    (stays : seat.consumer.handle.entry = e → ∀ live, move = .abandon live → live.check ≠ .ok () →
      among seat.consumer.index → seat.reading.any ReadPoint.isInside = false) :
    ∃ w, (x.perform (.consume k move)).Enacts e among w := by
  have memory : (x.consume k move).memory = x.memory.setQueue seat.consumer.handle
      (seat.step (x.memory.queue seat.consumer.handle) move).2 := by
    simp only [Commons.consume, here]
  by_cases own : seat.consumer.handle.entry = e
  · have place : seat.consumer.handle.entry = e ∧ seat.turn = x.turn e :=
      ⟨own, by rw [← own]; exact current⟩
    have resting (still : (seat.step (x.memory.queue seat.consumer.handle) move).1.consumer =
          seat.consumer ∧
        (seat.step (x.memory.queue seat.consumer.handle) move).1.reading = seat.reading)
        (rests : (x.memory.queue seat.consumer.handle).Lanewise Lane.Rests
          (seat.step (x.memory.queue seat.consumer.handle) move).2) :
        ∃ w, (x.perform (.consume k move)).Enacts e among w := by
      have has := (serves_consumer founded (List.mem_of_getElem? here)).has
      have outline := (seat.step_cases (x.memory.queue seat.consumer.handle) move).1
      have changes := Segment.Changes.setQueue has (congrArg Outline.slots outline) rests
      rw [← memory] at changes
      exact ⟨_, enacts.consume_rests founded here move (changes.slotwise Slot.Rests.refl e)
        fun _ => still⟩
    cases opened : seat.isOpen with
    | false =>
      have nothing (q : Queue) : seat.step q move = (seat, q) := by
        simp only [ConsumerSeat.step, opened, Bool.false_eq_true, ↓reduceIte]
      apply resting
      · rw [nothing]
        exact ⟨rfl, rfl⟩
      · rw [nothing]
        exact fun i _ => .refl _
    | true =>
      cases same : move.action? seat.consumer.index with
      | some action =>
        exact ⟨_, enacts.consume_acts founded manned here place opened same (stays own)⟩
      | none =>
        cases move with
        | drop =>
          obtain ⟨consumer, reading, rests⟩ :=
            seat.drop_rests (x.memory.queue seat.consumer.handle)
          exact resting ⟨consumer, reading⟩ rests
        | _ => cases same
  · have changes := consume_changes founded Lane.proceeds_others.toReadersObey here move
    have rests := changes.slots e (Ne.symm own)
    exact ⟨_, enacts.consume_rests founded here move (.of_same Slot.Rests.refl rests)
      fun entry => absurd entry own⟩

end Reader

section Sessions

theorem Enacts.stays (enacts : x.Enacts e among y) {move : Move}
    (same : (x.perform move).turn e = x.turn e)
    (rests : x.memory.Slotwise Slot.Rests (x.perform move).memory e)
    (producers : (x.perform move).producers = x.producers)
    (readers : (x.perform move).consumers = x.consumers) :
    ∃ w, (x.perform move).Enacts e among w := by
  exact ⟨_, enacts.rests founded same rests (same_producerAt same producers)
    (same_readerAt same readers)⟩

/-- A queue that is just laid out is an exchange that nobody is at. -/
theorem Enacts.of_laidOut (manned : x.Manned) (live : Liveness) (session : Session) (name : String)
    (consumers : Nat)
    (laid : (x.perform (.acquire live session name consumers)).turn e ≠ x.turn e) :
    ∃ w, (x.perform (.acquire live session name consumers)).Enacts e among w := by
  obtain ⟨producers, readers⟩ := x.acquire_seats live session name consumers
  rcases acquire_changes founded Lane.proceeds_others.refl live session name consumers with
    ⟨-, same⟩ | ⟨i, b, place, pool, room, turns, made⟩
  · unfold turn at laid
    rw [perform, same] at laid
    exact absurd rfl laid
  · obtain rfl := eq_of_turn turns laid
    have later : (x.acquire live session name consumers).turn i = x.turn i + 1 := by
      rw [turn, turns, Function.update_self]
      rfl
    have has : x.memory.Has ⟨i, b, name⟩ :=
      founded.built.has (Segment.freeEntry?_some place).1 (Segment.freeBlock?_some pool).1
    have queue := has.queue_setQueue ⟨(x.memory.queueAt i b).entry.format name consumers
      (ringLength x.geometry.queueSize consumers) b, (x.memory.queueAt i b).sync.assign i consumers⟩
    have put := has.setQueue ⟨(x.memory.queueAt i b).entry.format name consumers
      (ringLength x.geometry.queueSize consumers) b, (x.memory.queueAt i b).sync.assign i consumers⟩
    change ((x.memory.setQueueAt i b _).queue ⟨i, b, name⟩) = _ at queue
    change (x.memory.setQueueAt i b _).Has ⟨i, b, name⟩ at put
    rw [← made] at queue put
    have unused : Queue.IsUnused
        ((x.acquire live session name consumers).memory.queue ⟨i, b, name⟩) := by
      rw [queue]
      exact Entry.format_isUnused _ _ name consumers b room
    have past : x.turn i < (x.perform (.acquire live session name consumers)).turn i :=
      later ▸ Nat.lt_succ_self _
    refine ⟨Exchange.start (x.acquire live session name consumers).memory ⟨i, b, name⟩ 0 default []
      fun _ => default, rfl, rfl, ?_, ⟨_, .start put unused 0 default [] _⟩, ?_, ?_, ?_, ?_, ?_⟩
    · exact (congrArg (fun q => q.entry.block) queue).symm
    · intro j inside _
      have slots := congrArg (fun q => q.entry.slots) queue
      have within : j < consumers := by
        have size := congrArg Array.size slots
        rw [Entry.format, Array.size_ofFn] at size
        exact size ▸ inside
      have slot := Entry.format_slot (x.memory.queueAt i b).entry name
        (ringLength x.geometry.queueSize consumers) b within
      rw [← slots] at slot
      exact ⟨⟨rfl, fun torn => absurd torn Bool.false_ne_true⟩,
        .fresh slot (Producer.start_held ..)⟩
    · intro k seat found
      rw [laidOut_producerAt manned past producers] at found
      cases found
    · exact fun _ => ⟨rfl, fun _ => Producer.start_held ..⟩
    · intro k c point found
      rw [laidOut_readerAt manned past readers] at found
      cases found
    · exact fun _ _ => rfl

theorem Enacts.takesUp_here (enacts : x.Enacts e among y) (p : Producer) (limit : Nat) {move : Move}
    (turn : (x.perform move).turn e = x.turn e)
    (rests : x.memory.Slotwise Slot.Rests (x.perform move).memory e)
    (producers : (x.perform move).producers =
      x.producers ++ [⟨p, limit, .bound, x.turn p.handle.entry⟩])
    (readers : (x.perform move).consumers = x.consumers) (own : p.handle.entry = e)
    (block : p.handle.block = (x.memory.register.title e).block)
    (nobody : ∀ k, x.producerAt e k = none) (held : ∀ i, p.held i = none)
    (size : p.overflow.size = (x.memory.entries.getD e default).slots.size) :
    ∃ w, (x.perform move).Enacts e among w := by
  have others := same_readerAt turn readers
  obtain ⟨n, sound⟩ := enacts.sound
  have handle : p.handle.entry = y.producer.handle.entry ∧
      p.handle.block = y.producer.handle.block :=
    ⟨own.trans enacts.entry.symm, block.trans enacts.block.symm⟩
  have has : (x.perform move).memory.Has p.handle := by
    have there := enacts.place_perform founded move
    exact ⟨by rw [handle.1]; exact there.entry, by rw [handle.2]; exact there.block⟩
  obtain ⟨bound, empty⟩ := enacts.vacant nobody
  obtain ⟨w, made⟩ : ∃ w : Exchange, w =
      { y with memory := (x.perform move).memory, producer := p, limit, stand := .bound } :=
    ⟨_, rfl⟩
  have queue : w.queue = (x.perform move).memory.queueAt e p.handle.block := by
    rw [made, Exchange.queue, Segment.queue, own]
  have consumers : w.queue.consumers = y.queue.consumers := by
    rw [queue, enacts.consumers_eq]
    exact rests.size
  have rested (i : Nat) : (y.slot i).Rests (w.slot i) := by
    rw [enacts.slot_eq, Exchange.slot, queue]
    exact rests.slots i
  have ports : w.ports = y.ports := by rw [made]
  have stand : w.stand = .bound := by rw [made]
  have kept (i : Nat) : w.held i = none := by
    rw [made]
    exact held i
  refine ⟨w, by rw [made], by rw [made]; exact own, ?_, ⟨n, ?_⟩, ?_, ?_, fun _ => ⟨stand, kept⟩,
    ?_, ?_⟩
  · rw [← enacts.block_perform founded move turn, made]
    exact handle.2
  · apply sound.rearrange (y := w) (by rw [made]; exact has) _ consumers ports
    · intro i _
      exact .rests (rested i) fun _ =>
        ⟨Stand.keeps_of_bound bound, (kept i).trans (empty i).symm⟩
    · rw [Producer.Sized, consumers, enacts.consumers_eq, ← size, made]
  · intro i inside own
    exact (enacts.ordered i (consumers ▸ inside) own).rests (rested i) ⟨_, congrFun ports i⟩
      fun _ => ⟨bound, (kept i).trans (empty i).symm⟩
  · intro k seat found
    rw [append_producerAt turn producers] at found
    split at found
    · simp only [own, and_self, ↓reduceIte, Option.some.injEq] at found
      rw [← found, turn, made]
      rfl
    · rw [nobody] at found
      cases found
  · rw [others, ports]
    exact enacts.reader
  · rw [others, ports]
    exact enacts.idle

theorem Enacts.attaches_here (enacts : x.Enacts e among y) {move : Move} {c : Consumer}
    (turn : (x.perform move).turn e = x.turn e)
    (rests : x.memory.Slotwise Slot.Rests (x.perform move).memory e)
    (producers : (x.perform move).producers = x.producers)
    (readers : (x.perform move).consumers =
      x.consumers ++ [⟨c, none, true, x.turn c.handle.entry⟩]) (own : c.handle.entry = e)
    (free : ∀ k d point, x.readerAt e k = some (d, point) → d.index ≠ c.index) :
    ∃ w, (x.perform move).Enacts e among w := by
  have others := same_producerAt turn producers
  have listed (j : Nat) : (x.perform move).readerAt e j =
      if j = x.consumers.length then some (c, none) else x.readerAt e j := by
    simp only [append_readerAt turn readers, own, and_self, ↓reduceIte]
  have last : x.readerAt e x.consumers.length = none := by
    rw [readerAt, List.getElem?_eq_none (Nat.le_refl _)]
    rfl
  obtain ⟨n, sound⟩ := enacts.sound
  rw [← enacts.memory, ← enacts.entry] at rests
  have quiet : (y.ports c.index).reading = none := enacts.idle c.index free
  refine ⟨({ y with memory := (x.perform move).memory } : Exchange).withPort c.index
      { y.ports c.index with consumer := c }, rfl, enacts.entry,
    enacts.block_perform founded move turn, ⟨n, ?_⟩, ?_, ?_, ?_, ?_, ?_⟩
  · have rearranged := sound.rests (enacts.place_perform founded move) rests
    refine rearranged.withPort (i := c.index) rfl fun inside => ?_
    exact (rearranged.ports c.index inside).still (.alike ⟨rfl, rfl⟩ fun kept => ⟨kept, rfl⟩) c
  · intro i inside own
    have before : i < y.queue.consumers := Nat.lt_of_lt_of_le inside (Nat.le_of_eq rests.size)
    refine (enacts.ordered i before own).rests (rests.slots i) ?_ fun bound => ⟨bound, rfl⟩
    rw [Exchange.withPort_ports]
    split
    · rename_i here
      subst here
      exact ⟨_, rfl⟩
    · exact ⟨_, rfl⟩
  · rw [others, turn]
    exact enacts.producer
  · rw [others]
    exact enacts.vacant
  · intro j d point found
    rw [listed] at found
    rw [Exchange.withPort_ports]
    split at found
    · cases found
      rw [if_pos rfl]
      exact ⟨rfl, quiet⟩
    · rw [if_neg (free j d point found)]
      exact enacts.reader j d point found
  · intro i nobody
    have elsewhere : i ≠ c.index := by
      intro here
      refine nobody x.consumers.length c none ?_ here.symm
      rw [listed, if_pos rfl]
    rw [Exchange.withPort_ports, if_neg elsewhere]
    apply enacts.idle
    intro j d point found
    refine nobody j d point ?_
    rw [listed, if_neg fun here => by rw [here, last] at found; cases found]
    exact found

theorem Enacts.bind (enacts : x.Enacts e among y) (manned : x.Manned) (live : Liveness)
    (session : Session) (name : String) (consumerNodes distribution : List NodeId) (limit : Nat) :
    ∃ w, (x.perform (.bind live session name consumerNodes distribution limit)).Enacts e
      among w := by
  have turn : (x.perform (.bind live session name consumerNodes distribution limit)).turn e =
      x.turn e := perform_turn x (by intro _ _ _ _ same; cases same) e
  obtain ⟨h, changes⟩ := bind_changes founded Lane.rests_sessions.refl Lane.rests_sessions.takesUp
    Lane.rests_sessions.attaches live session name consumerNodes distribution limit
  have rests := changes.slotwise Slot.Rests.refl e
  rcases x.memory.bind_roles x.geometry live session name consumerNodes distribution with
    ⟨cause, failed⟩ | ⟨i, -, found, free, made⟩ | ⟨i, found, taken, made⟩
  · apply enacts.stays founded turn rests
    · simp only [perform, Commons.bind, failed]
    · simp only [perform, Commons.bind, failed]
  · have producers : (x.perform (.bind live session name consumerNodes distribution
        limit)).producers = x.producers ++ [⟨Producer.start (x.memory.handleAt i) session
          ((x.memory.queue (x.memory.handleAt i)).bindProducer session consumerNodes distribution).2
          ((x.memory.queue (x.memory.handleAt i)).bindProducer session consumerNodes
            distribution).1.consumers, limit, .bound, x.turn i⟩] := by
      simp only [perform, Commons.bind, made]
      rfl
    have readers : (x.perform (.bind live session name consumerNodes distribution
        limit)).consumers = x.consumers := by
      simp only [perform, Commons.bind, made]
    by_cases own : i = e
    · subst own
      refine enacts.takesUp_here founded _ limit turn rests producers readers rfl rfl ?_
        (fun _ => Producer.start_held ..) ?_
      · intro k
        rw [Option.eq_none_iff_forall_ne_some]
        intro seat found
        obtain ⟨here, there⟩ := producerAt_eq_some.mp found
        exact (manned.bound_at here there).2 free
      · exact Array.size_replicate.trans
          (congrArg Outline.slots (Queue.bindProducer_outline _ session consumerNodes distribution))
    · exact ⟨_, enacts.rests founded turn rests (append_producerAt_elsewhere turn producers own)
        (same_readerAt turn readers)⟩
  · rcases Queue.bindConsumer_cases (x.memory.queue (x.memory.handleAt i)) session name with
      ⟨⟨cause, refused⟩, -⟩ | ⟨j, inside, free, accepted, -, -⟩
    · apply enacts.stays founded turn rests
      · simp only [perform, Commons.bind, made, refused, Except.map]
      · simp only [perform, Commons.bind, made, refused, Except.map]
    · have producers : (x.perform (.bind live session name consumerNodes distribution
          limit)).producers = x.producers := by
        simp only [perform, Commons.bind, made, accepted, Except.map]
      have readers : (x.perform (.bind live session name consumerNodes distribution
          limit)).consumers =
            x.consumers ++ [⟨⟨x.memory.handleAt i, session, j, false⟩, none, true, x.turn i⟩] := by
        simp only [perform, Commons.bind, made, accepted, Except.map]
        rfl
      by_cases own : i = e
      · subst own
        refine enacts.attaches_here founded turn rests producers readers rfl ?_
        intro k d point found same
        obtain ⟨seat, here, there, rfl, -⟩ := readerAt_eq_some.mp found
        have attended := (manned.attached_at here there).2.2
        rw [same] at attended
        exact free attended
      · exact ⟨_, enacts.rests founded turn rests (same_producerAt turn producers)
          (append_readerAt_elsewhere turn readers own)⟩

end Sessions

end Moves

/-- Whoever goes on as a producer or a reader holds on to a queue that is still in its place. -/
def AtLiveQueue (x : Commons) : Move → Prop
  | .produce k _ => ∀ seat ∈ x.producers[k]?,
    (x.memory.register.title seat.producer.handle.entry).live = true ∧
      seat.turn = x.turn seat.producer.handle.entry
  | .consume k _ => ∀ seat ∈ x.consumers[k]?,
    (x.memory.register.title seat.consumer.handle.entry).live = true ∧
      seat.turn = x.turn seat.consumer.handle.entry
  | _ => True

instance (x : Commons) : (move : Move) → Decidable (x.AtLiveQueue move)
  | .produce k _ => inferInstanceAs (Decidable (∀ seat ∈ x.producers[k]?, _ ∧ _))
  | .consume k _ => inferInstanceAs (Decidable (∀ seat ∈ x.consumers[k]?, _ ∧ _))
  | .acquire .. | .bind .. | .release .. | .disconnect .. => isTrue trivial

/-- A reader gives up inside a long record. -/
def GivesUpInside (x : Commons) : Move → Prop
  | .consume k (.abandon live) => live.check.toBool = false ∧
    ∃ seat ∈ x.consumers[k]?, seat.reading.any ReadPoint.isInside = true
  | _ => False

instance (x : Commons) : (move : Move) → Decidable (x.GivesUpInside move)
  | .consume k (.abandon live) => inferInstanceAs (Decidable (live.check.toBool = false ∧
      ∃ seat ∈ x.consumers[k]?, seat.reading.any ReadPoint.isInside = true))
  | .consume _ (.read _) | .consume _ .resume | .consume _ .leave | .consume _ .drop => isFalse id
  | .acquire .. | .bind .. | .release .. | .disconnect .. | .produce .. => isFalse id

/-- The reader of slot `i` at the queue in place `e` gives up inside a long record. -/
def GivesUpInsideAt (x : Commons) (e i : Nat) : Move → Prop
  | .consume k (.abandon live) => live.check.toBool = false ∧
    ∃ seat ∈ x.consumers[k]?, seat.consumer.handle.entry = e ∧ seat.consumer.index = i ∧
      seat.reading.any ReadPoint.isInside = true
  | _ => False

instance (x : Commons) (e i : Nat) : (move : Move) → Decidable (x.GivesUpInsideAt e i move)
  | .consume k (.abandon live) => inferInstanceAs (Decidable (live.check.toBool = false ∧
      ∃ seat ∈ x.consumers[k]?, seat.consumer.handle.entry = e ∧ seat.consumer.index = i ∧
        seat.reading.any ReadPoint.isInside = true))
  | .consume _ (.read _) | .consume _ .resume | .consume _ .leave | .consume _ .drop => isFalse id
  | .acquire .. | .bind .. | .release .. | .disconnect .. | .produce .. => isFalse id

theorem GivesUpInsideAt.givesUpInside {i : Nat} {move : Move}
    (given : x.GivesUpInsideAt e i move) : x.GivesUpInside move := by
  cases move with
  | consume k move =>
    cases move with
    | abandon live =>
      obtain ⟨failed, seat, here, -, -, inside⟩ := given
      exact ⟨failed, seat, here, inside⟩
    | _ => cases given
  | _ => cases given

/-- Any move, at a queue that was there before or is just laid out. -/
theorem exists_enacts_perform (founded : x.Founded) (manned : x.Manned) {move : Move}
    (holding : x.AtLiveQueue move) (stays : ∀ i, among i → ¬ x.GivesUpInsideAt e i move)
    (before : (x.perform move).turn e = x.turn e → ∃ y, x.Enacts e among y) :
    ∃ y, (x.perform move).Enacts e among y := by
  have other (others : ∀ live session name consumers, move ≠ .acquire live session name consumers) :
      ∃ y, x.Enacts e among y := before (perform_turn x others e)
  cases move with
  | acquire live session name consumers =>
    by_cases same : (x.perform (.acquire live session name consumers)).turn e = x.turn e
    · obtain ⟨y, enacts⟩ := before same
      obtain ⟨producers, readers⟩ := x.acquire_seats live session name consumers
      exact enacts.stays founded same
        (acquire_slotwise Slot.Rests.refl founded live session name consumers same) producers
        readers
    · exact Enacts.of_laidOut founded manned live session name consumers same
  | bind live session name consumerNodes distribution limit =>
    obtain ⟨y, enacts⟩ := other (by intro _ _ _ _ same; cases same)
    exact enacts.bind founded manned live session name consumerNodes distribution limit
  | release live session name =>
    obtain ⟨y, enacts⟩ := other (by intro _ _ _ _ same; cases same)
    obtain ⟨producers, readers⟩ := x.release_seats live session name
    obtain ⟨h, changes⟩ := release_changes founded Lane.rests_sessions.refl
      Lane.rests_sessions.releases live session name
    exact enacts.stays founded (perform_turn x (by intro _ _ _ _ same; cases same) e)
      (changes.slotwise Slot.Rests.refl e) producers readers
  | disconnect live session name =>
    obtain ⟨y, enacts⟩ := other (by intro _ _ _ _ same; cases same)
    obtain ⟨h, changes⟩ := disconnect_changes founded Lane.rests_sessions.refl
      Lane.rests_sessions.disconnects live session name
    exact enacts.stays founded rfl (changes.slotwise Slot.Rests.refl e) rfl rfl
  | produce k move =>
    obtain ⟨y, enacts⟩ := other (by intro _ _ _ _ same; cases same)
    cases here : x.producers[k]? with
    | none =>
      rw [Commons.perform, produce_none here]
      exact ⟨y, enacts⟩
    | some seat => exact enacts.produce founded manned here (holding seat here).2 move
  | consume k move =>
    obtain ⟨y, enacts⟩ := other (by intro _ _ _ _ same; cases same)
    cases here : x.consumers[k]? with
    | none =>
      rw [Commons.perform, consume_none here]
      exact ⟨y, enacts⟩
    | some seat =>
      apply enacts.consume founded manned here (holding seat here).2
      rintro entry live rfl failed own
      by_contra inside
      refine stays _ own ⟨?_, seat, here, entry, rfl, eq_true_of_ne_false inside⟩
      cases checked : live.check with
      | ok _ => exact absurd checked failed
      | error cause => rfl

/-- The parties at every queue that was ever laid out and still is in its place are an exchange. -/
def IsStaged (x : Commons) : Prop := ∀ e, x.turn e ≠ 0 → ∃ y, x.Staged e y

theorem IsStaged.perform (staged : x.IsStaged) (founded : x.Founded) (manned : x.Manned)
    {move : Move} (holding : x.AtLiveQueue move) (stays : ¬ x.GivesUpInside move) :
    (x.perform move).IsStaged := by
  intro e used
  apply exists_enacts_perform founded manned holding
  · exact fun _ _ given => stays given.givesUpInside
  · exact fun same => staged e (same ▸ used)

end RecordExchange.Commons
