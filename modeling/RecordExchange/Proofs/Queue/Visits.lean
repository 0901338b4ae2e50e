import RecordExchange.Proofs.Queue.Allotment
import RecordExchange.Proofs.Registry.Tables

set_option autoImplicit false

/-!
Whose slots a session works on that visits a queue.

A session that binds, gives its claim up or reports a reader's end works on slots that carry its own
node, and on slots that nobody was given. What carries another node stays as it is, the reader's
latch included.
-/

namespace RecordExchange

namespace Entry

/-- What becomes of a slot when those that nobody was given are closed and the first of them is
given to a node. -/
def seedSlot (e : Entry) (node : NodeId) (i : Nat) (slot : Slot) : Slot :=
  if slot.node ≠ Slot.unassigned then slot
  else
    { slot with
        status := .done
        node :=
          if ∀ j < i, (e.slots.getD j default).node ≠ Slot.unassigned then node
          else Slot.unassigned }

/-- Closes the slots that nobody was given, and gives the first of them to a node. -/
def seed (e : Entry) (node : NodeId) : Entry := { e with slots := e.slots.mapIdx (e.seedSlot node) }

theorem getElem_seed (e : Entry) (node : NodeId) {i : Nat} (inside : i < e.slots.size)
    (present : i < (e.seed node).slots.size) :
    (e.seed node).slots[i] = e.seedSlot node i e.slots[i] := Array.getElem_mapIdx ..

theorem seed_of_handed {e : Entry} (node : NodeId)
    (handed : ∀ (i : Nat) (inside : i < e.slots.size), e.slots[i].node ≠ Slot.unassigned) :
    e.seed node = e := by
  have slots : (e.seed node).slots = e.slots := by
    ext i before present
    · exact Array.size_mapIdx
    · rw [getElem_seed e node present, seedSlot, if_pos (handed i present)]
  exact congrArg (fun slots => { e with slots }) slots

end Entry

namespace Queue

variable {q : Queue} {session : Session} {i : Nat}

section Parts

/-! What is left of entry and sync block when lanes are put back. -/

theorem setLane_sync {l : Lane} (kept : l.latch = (q.lane i).latch) :
    (q.setLane i l).sync = q.sync := by
  simp only [setLane, kept, lane, setIfInBounds_getD]

theorem setLanesFrom_sync (q : Queue) (i : Nat) {lanes : List Lane}
    (kept : ∀ (n : Nat) (l : Lane), lanes[n]? = some l → l.latch = (q.lane (i + n)).latch) :
    (q.setLanesFrom i lanes).sync = q.sync := by
  induction lanes generalizing q i with
  | nil => rfl
  | cons l rest ih =>
    have first : (q.setLane i l).sync = q.sync := setLane_sync (kept 0 l rfl)
    rw [setLanesFrom, ih, first]
    intro n m found
    have later := kept (n + 1) m found
    rw [later, lane, lane, first, Nat.add_assoc, Nat.add_comm 1 n]

/-- Where a change leaves the latches alone, so does the change of all lanes. -/
theorem mapLanes_sync (q : Queue) {f : Lane → Lane} (kept : ∀ l, (f l).latch = l.latch) :
    (q.mapLanes f).sync = q.sync := by
  refine setLanesFrom_sync q 0 fun n l found => ?_
  rw [List.getElem?_map, Option.map_eq_some_iff] at found
  obtain ⟨before, there, rfl⟩ := found
  obtain ⟨inside, rfl⟩ := List.getElem?_eq_some_iff.mp there
  simp only [kept, lanes, List.getElem_map, List.getElem_range, Nat.zero_add]

theorem setLane_entry (q : Queue) (i : Nat) (l : Lane) :
    (q.setLane i l).entry = { q.entry with slots := (q.setLane i l).entry.slots } := rfl

theorem mapLanes_entry (q : Queue) (f : Lane → Lane) :
    (q.mapLanes f).entry = { q.entry with slots := (q.mapLanes f).entry.slots } := by
  have rest (q : Queue) (i : Nat) (lanes : List Lane) :
      (q.setLanesFrom i lanes).entry =
        { q.entry with slots := (q.setLanesFrom i lanes).entry.slots } := by
    induction lanes generalizing q i with
    | nil => rfl
    | cons l rest ih =>
      rw [setLanesFrom, ih]
      rfl
  exact rest q 0 _

theorem getElem_slots (q : Queue) (inside : i < q.entry.slots.size) :
    q.entry.slots[i] = (q.lane i).slot := by
  simp only [lane, Array.getD_eq_getD_getElem?, Array.getElem?_eq_getElem inside, Option.getD_some]

end Parts

section Foreign

/-! What carries another node. -/

theorem mapConsumers_foreign (q : Queue) (own : NodeId) (consumerNodes nodes : List NodeId)
    (assigned : (q.lane i).slot.node ≠ Slot.unassigned) :
    (q.mapConsumers own consumerNodes nodes).1.lane i = q.lane i := by
  induction nodes generalizing q with
  | nil => rfl
  | cons node rest ih =>
    have first : (q.mapNode own consumerNodes node).1.lane i = q.lane i := by
      rcases q.mapNode_cases own consumerNodes node with ⟨same, -⟩ | ⟨j, -, spare, -, made⟩
      · rw [same]
      · have other : j ≠ i := fun same => assigned (same ▸ spare)
        rw [made]
        exact lane_setLane_other q other _
    rw [mapConsumers_cons]
    exact (ih (q.mapNode own consumerNodes node).1 (first ▸ assigned)).trans first

/-- A new producer hands out what nobody was given, and nothing else. -/
theorem bindProducer_foreign (q : Queue) (session : Session) (consumerNodes nodes : List NodeId)
    (assigned : (q.lane i).slot.node ≠ Slot.unassigned) :
    (q.bindProducer session consumerNodes nodes).1.lane i = q.lane i :=
  mapConsumers_foreign _ session.node consumerNodes nodes assigned

theorem bindConsumer_foreign (q : Queue) (name : String)
    (foreign : (q.lane i).slot.node ≠ session.node) :
    (q.bindConsumer session name).1.lane i = q.lane i := by
  have elsewhere {j : Nat} (found : q.slotOf? session.node = some j) : j ≠ i :=
    fun same => foreign (same ▸ (slotOf?_eq_some.mp found).2.1)
  cases q.bindConsumer_admits session name with
  | refuses cause made => rw [made]
  | closes j inside closed cause made found =>
    rw [made, wakeProducer_lane]
    exact lane_setLane_other q (elsewhere found) _
  | attaches j inside free opened made found =>
    rw [made]
    exact lane_setLane_other q (elsewhere found) _

theorem releaseConsumer_foreign (wired : q.Wired) (inside : i < q.consumers)
    (foreign : (q.lane i).slot.node ≠ session.node)
    (assigned : (q.lane i).slot.node ≠ Slot.unassigned) :
    (q.releaseConsumer session).lane i = q.lane i := by
  have elsewhere {node : NodeId} {j : Nat} (other : (q.lane i).slot.node ≠ node)
      (found : q.slotOf? node = some j) : j ≠ i :=
    fun same => other (same ▸ (slotOf?_eq_some.mp found).2.1)
  simp only [releaseConsumer]
  split
  · rename_i j own
    split
    · rfl
    · rw [wakeProducer_lane]
      exact lane_setLane_other q (elsewhere foreign own) _
  · rw [wakeProducer_lane]
    split
    · rename_i j spare
      rw [lane_setLane_other _ (elsewhere assigned spare), wired.lane_mapLanes inside,
        if_neg assigned]
    · rfl

theorem giveUp_foreign (wired : q.Wired) (inside : i < q.consumers)
    (foreign : (q.lane i).slot.node ≠ session.node)
    (assigned : (q.lane i).slot.node ≠ Slot.unassigned) :
    (q.giveUp session).lane i = q.lane i := by
  rw [giveUp]
  split
  · rfl
  · exact releaseConsumer_foreign wired inside foreign assigned

theorem disconnect_foreign (wired : q.Wired) (inside : i < q.consumers)
    (foreign : (q.lane i).slot.node ≠ session.node) :
    (q.disconnect session).lane i = q.lane i := by
  rw [disconnect, wakeProducer_lane, wired.lane_mapLanes inside, if_neg foreign]

end Foreign

section GivingUp

/-! The cases of giving a claim up in which nobody's reading comes to an end. -/

theorem giveUp_unbound (nobody : q.entry.producerNode = Slot.unassigned) :
    q.giveUp session = q := if_pos (.inl nobody)

/-- A slot that nobody is attached to is left to a newer session of its node. -/
theorem giveUp_unattached (own : q.slotOf? session.node = some i)
    (free : (q.lane i).slot.pid = 0) : q.giveUp session = q := by
  rw [giveUp]
  split
  · rfl
  · simp only [releaseConsumer, own, free, true_or, ↓reduceIte]

/-- What becomes of a lane that nobody was given when a session without a slot gives its claim up.
-/
def closeSpare (l : Lane) : Lane := if l.slot.node = Slot.unassigned then l.withStatus .done else l

theorem closeSpare_latch (l : Lane) : (closeSpare l).latch = l.latch := by
  unfold closeSpare
  split
  · rfl
  · rfl

/-- The first slot that nobody was given goes to the node, and the others are closed. -/
theorem seedSlot_lane {first : Nat} (found : q.slotOf? Slot.unassigned = some first)
    (node : NodeId) (inside : i < q.consumers) :
    q.entry.seedSlot node i (q.lane i).slot =
      if first = i then { (q.lane i).slot with node, status := .done }
      else (closeSpare (q.lane i)).slot := by
  obtain ⟨-, spare, before⟩ := slotOf?_eq_some.mp found
  have before : ∀ j < first, (q.entry.slots.getD j default).node ≠ Slot.unassigned := before
  unfold Entry.seedSlot closeSpare
  by_cases same : first = i
  · subst same
    rw [if_neg (not_not.mpr spare), if_pos rfl, if_pos before]
  · rw [if_neg same]
    by_cases unassigned : (q.lane i).slot.node = Slot.unassigned
    · have later : ¬ ∀ j < i, (q.entry.slots.getD j default).node ≠ Slot.unassigned := fun none =>
        same (Option.some_inj.mp
          (found.symm.trans (slotOf?_eq_some.mpr ⟨inside, unassigned, none⟩)))
      rw [if_neg (not_not.mpr unassigned), if_neg later, if_pos unassigned, ← unassigned]
      rfl
    · rw [if_pos unassigned, if_neg unassigned]

/-- A session without a slot closes what nobody was given, leaves a slot to those of its node who
come later, and wakes the producer. -/
theorem releaseConsumer_seeds (none : q.slotOf? session.node = none) :
    q.releaseConsumer session =
      ⟨q.entry.seed session.node, { q.sync with producer := q.sync.producer.set }⟩ := by
  simp only [releaseConsumer, none]
  cases found : q.slotOf? Slot.unassigned with
  | none =>
    have handed := slotOf?_eq_none.mp found
    rw [Entry.seed_of_handed session.node fun i inside => ?_]
    · rfl
    · rw [getElem_slots q inside]
      exact handed i inside
  | some first =>
    let taken : Lane :=
      { q.lane first with
          slot := { (q.lane first).slot with node := session.node, status := .done } }
    let seeded := (q.mapLanes closeSpare).setLane first taken
    have sync : seeded.sync = q.sync := by
      have mapped := mapLanes_sync q closeSpare_latch
      have kept : taken.latch = ((q.mapLanes closeSpare).lane first).latch := by
        simp only [lane, mapped]
        rfl
      exact (setLane_sync kept).trans mapped
    have slots : seeded.entry.slots = (q.entry.seed session.node).slots := by
      have size : seeded.entry.slots.size = q.entry.slots.size :=
        (setLane_consumers ..).trans (mapLanes_consumers ..)
      ext i present after
      · exact size.trans Array.size_mapIdx.symm
      · have inside : i < q.entry.slots.size := Nat.lt_of_lt_of_eq present size
        rw [Entry.getElem_seed q.entry session.node inside, getElem_slots seeded present,
          getElem_slots q inside, seedSlot_lane found session.node inside]
        by_cases same : first = i
        · subst same
          rw [if_pos rfl, lane_setLane_self (by rw [mapLanes_consumers]; exact inside)]
        · rw [if_neg same, lane_setLane_other _ same, lane_mapLanes inside]
    have entry : seeded.entry = q.entry.seed session.node := by
      rw [setLane_entry, mapLanes_entry, slots]
      rfl
    change Queue.mk seeded.entry { seeded.sync with producer := seeded.sync.producer.set } = _
    rw [entry, sync]

end GivingUp

end Queue

end RecordExchange
