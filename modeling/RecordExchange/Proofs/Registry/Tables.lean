import RecordExchange.Proofs.Queue.Outline

set_option autoImplicit false

/-!
What the operations on a segment come to for the register of its queues.

Work on a queue leaves the register alone. A queue is laid out in the first free place with the
first free block, and a reference that is given up is one less in the handle's place, whatever the
place holds by then.
-/

namespace RecordExchange

theorem Entry.format_slot (e : Entry) (name : String) (ringLen block : Nat) {consumers i : Nat}
    (inside : i < consumers) :
    (e.format name consumers ringLen block).slots.getD i default = Slot.fresh
      (cells e.image (bufferStart consumers ringLen i - entryHeaderSize) ringLen) := by
  rw [format, Array.getD_eq_getD_getElem?, Array.getElem?_ofFn, dif_pos inside, Option.getD_some]

namespace Segment

variable {s : Segment} {g : Geometry} {h : Handle} {q : Queue} {i j b n : Nat} {name : String}

/-- The segment has the places, the slots and the latches of a geometry. -/
structure Built (s : Segment) (g : Geometry) : Prop where
  entries : s.entries.size = g.maxQueues
  blocks : s.blocks.size = g.maxQueues
  slots : ∀ i, (s.entries.getD i default).slots.size ≤ g.maxConsumers
  latches : ∀ b, b < s.blocks.size → (s.blocks.getD b default).consumers.size = g.maxConsumers

theorem getD_setIfInBounds {α : Type} (cells : Array α) (i j : Nat) (value other : α) :
    (cells.setIfInBounds i value).getD j other =
      if i = j ∧ j < cells.size then value else cells.getD j other := by
  simp only [Array.getD_eq_getD_getElem?, Array.getElem?_setIfInBounds]
  by_cases same : i = j
  · by_cases inside : j < cells.size
    · simp only [same, inside, ↓reduceIte, and_self, Option.getD_some]
    · simp only [same, inside, ↓reduceIte, and_false,
        Array.getElem?_eq_none (Nat.le_of_not_lt inside)]
  · simp only [same, ↓reduceIte, false_and]

theorem getD_outside {α : Type} {cells : Array α} {i : Nat} (outside : cells.size ≤ i) (other : α) :
    cells.getD i other = other := by
  rw [Array.getD_eq_getD_getElem?, Array.getElem?_eq_none outside, Option.getD_none]

/-- Where a cell is put back with the same `f`, no cell's `f` has changed. -/
theorem getD_setIfInBounds_same {α β : Type} {cells : Array α} {i : Nat} {value other : α}
    (f : α → β) (same : f value = f (cells.getD i other)) (j : Nat) :
    f ((cells.setIfInBounds i value).getD j other) = f (cells.getD j other) := by
  rw [getD_setIfInBounds]
  split
  · rename_i found
    rw [same, found.1]
  · rfl

section Cells

/-! What is read where a queue was put back, and beside it. -/

variable {e b i d : Nat}

theorem setQueueAt_entry (present : e < s.entries.size) :
    (s.setQueueAt e b q).entries.getD e default = q.entry := by
  rw [setQueueAt, getD_setIfInBounds, if_pos ⟨rfl, present⟩]

theorem setQueueAt_block (present : b < s.blocks.size) :
    (s.setQueueAt e b q).blocks.getD b default = q.sync := by
  rw [setQueueAt, getD_setIfInBounds, if_pos ⟨rfl, present⟩]

theorem setQueueAt_entry_other (other : i ≠ e) :
    (s.setQueueAt e b q).entries.getD i default = s.entries.getD i default := by
  rw [setQueueAt, getD_setIfInBounds, if_neg fun found => other found.1.symm]

theorem setQueueAt_block_other (other : d ≠ b) :
    (s.setQueueAt e b q).blocks.getD d default = s.blocks.getD d default := by
  rw [setQueueAt, getD_setIfInBounds, if_neg fun found => other found.1.symm]

end Cells

theorem Built.has (built : s.Built g) (entry : h.entry < g.maxQueues)
    (block : h.block < g.maxQueues) : s.Has h :=
  ⟨by rw [built.entries]; exact entry, by rw [built.blocks]; exact block⟩

section Create

theorem create_slots (c : Config) (creator : ProcessId) (i : Nat) :
    ((create c creator).entries.getD i default).slots.size = 0 := by
  change ((Array.replicate c.maxQueues Entry.unused).getD i default).slots.size = 0
  rw [Array.getD_eq_getD_getElem?, Array.getElem?_replicate]
  split
  · rfl
  · rfl

theorem create_built (c : Config) (creator : ProcessId) :
    (create c creator).Built ⟨c.maxQueues, c.maxConsumers, c.queueSize⟩ := by
  refine ⟨Array.size_replicate, Array.size_replicate, ?_, ?_⟩
  · intro i
    rw [create_slots]
    exact Nat.zero_le _
  · intro b inside
    have small : b < c.maxQueues := (Array.size_replicate (n := c.maxQueues)) ▸ inside
    change ((Array.replicate c.maxQueues (SyncBlock.free c.maxConsumers)).getD b
      default).consumers.size = _
    rw [Array.getD_eq_getD_getElem?, Array.getElem?_replicate, if_pos small]
    exact Array.size_replicate

theorem create_register (c : Config) (creator : ProcessId) (i : Nat) :
    ((create c creator).register.title i).live = false ∧
      (create c creator).register.serves i = none := by
  simp only [register, create, Array.getD_eq_getD_getElem?, Array.getElem?_replicate]
  constructor
  · split
    · rfl
    · rfl
  · split
    · rfl
    · rfl

end Create

theorem Built.within (built : s.Built g) : s.register.Within g.maxQueues := by
  refine ⟨?_, ?_⟩
  · intro i live
    by_contra outside
    simp only [register, Array.getD_eq_getD_getElem?,
      Array.getElem?_eq_none (show s.entries.size ≤ i by rw [built.entries]; omega)] at live
    cases live
  · intro b i serves
    by_contra outside
    simp only [register, Array.getD_eq_getD_getElem?,
      Array.getElem?_eq_none (show s.blocks.size ≤ b by rw [built.blocks]; omega)] at serves
    cases serves

section SetQueue

theorem register_setQueue (has : s.Has h) (q : Queue) :
    (s.setQueue h q).register =
      ⟨Function.update s.register.title h.entry q.entry.title,
        Function.update s.register.serves h.block q.sync.queue⟩ := by
  simp only [register, setQueue, setQueueAt, Register.mk.injEq]
  constructor
  · funext j
    rw [getD_setIfInBounds, Function.update_apply]
    by_cases same : j = h.entry
    · rw [if_pos ⟨same.symm, same ▸ has.entry⟩, if_pos same]
    · rw [if_neg (fun found => same found.1.symm), if_neg same]
  · funext d
    rw [getD_setIfInBounds, Function.update_apply]
    by_cases same : d = h.block
    · rw [if_pos ⟨same.symm, same ▸ has.block⟩, if_pos same]
    · rw [if_neg (fun found => same found.1.symm), if_neg same]

/-- Work that keeps the outline of a queue leaves the register alone. -/
theorem register_setQueue_same (same : q.outline = (s.queue h).outline) :
    (s.setQueue h q).register = s.register := by
  simp only [Queue.outline, Outline.mk.injEq] at same
  simp only [register, setQueue, setQueueAt, Register.mk.injEq]
  constructor
  · funext j
    exact getD_setIfInBounds_same Entry.title same.1 j
  · funext d
    exact getD_setIfInBounds_same SyncBlock.queue same.2.1 d

/-- A queue goes back into its place with another number of references. -/
theorem register_setReferences (has : s.Has h) (n : UInt32)
    (title : q.entry.title = { s.register.title h.entry with references := n })
    (serves : q.sync.queue = s.register.serves h.block) :
    (s.setQueue h q).register = s.register.setReferences h.entry n := by
  rw [register_setQueue has, title, serves, Function.update_eq_self]
  rfl

theorem Built.setQueue (built : s.Built g) (slots : q.consumers ≤ g.maxConsumers)
    (latches : q.sync.consumers.size = (s.queue h).sync.consumers.size) :
    (s.setQueue h q).Built g := by
  refine ⟨?_, ?_, ?_, ?_⟩
  · rw [Segment.setQueue, setQueueAt, Array.size_setIfInBounds]
    exact built.entries
  · rw [Segment.setQueue, setQueueAt, Array.size_setIfInBounds]
    exact built.blocks
  · intro i
    rw [Segment.setQueue, setQueueAt, getD_setIfInBounds]
    split
    · exact slots
    · exact built.slots i
  · intro b inside
    rw [Segment.setQueue, setQueueAt, Array.size_setIfInBounds] at inside
    rw [Segment.setQueue, setQueueAt, getD_setIfInBounds]
    by_cases own : h.block = b
    · rw [if_pos ⟨own, inside⟩, latches]
      exact built.latches h.block (own ▸ inside)
    · rw [if_neg (fun found => own found.1)]
      exact built.latches b inside

theorem Built.setQueue_same (built : s.Built g) (same : q.outline = (s.queue h).outline) :
    (s.setQueue h q).Built g := by
  simp only [Queue.outline, Outline.mk.injEq] at same
  refine built.setQueue ?_ same.2.2.2.1
  rw [same.2.2.1]
  exact built.slots h.entry

/-- The session that took up the producer's role in the queue of a place; process zero for none. -/
def producerOf (s : Segment) (e : Nat) : Session := (s.entries.getD e default).producer

theorem producerOf_setQueue (has : s.Has h) (q : Queue) (e : Nat) :
    (s.setQueue h q).producerOf e =
      if e = h.entry then q.entry.producer else s.producerOf e := by
  unfold producerOf Segment.setQueue setQueueAt
  rw [getD_setIfInBounds]
  by_cases here : e = h.entry
  · subst here
    rw [if_pos ⟨rfl, has.entry⟩, if_pos rfl]
  · rw [if_neg fun found => here found.1.symm, if_neg here]

/-- From `s` to `t` nothing happened but work on the queues that are there. -/
structure Keeps (s t : Segment) : Prop where
  register : t.register = s.register
  corrupted : t.corrupted = s.corrupted
  built : ∀ g, s.Built g → t.Built g
  producers : t.producerOf = s.producerOf

theorem Keeps.refl (s : Segment) : s.Keeps s := ⟨rfl, rfl, fun _ built => built, rfl⟩

theorem Keeps.trans {s t u : Segment} (first : s.Keeps t) (second : t.Keeps u) : s.Keeps u :=
  ⟨second.register.trans first.register, second.corrupted.trans first.corrupted,
    fun g built => second.built g (first.built g built),
    second.producers.trans first.producers⟩

theorem Keeps.setQueue (same : q.outline = (s.queue h).outline) : s.Keeps (s.setQueue h q) := by
  refine ⟨register_setQueue_same same, rfl, fun _ built => built.setQueue_same same, ?_⟩
  funext e
  exact getD_setIfInBounds_same Entry.producer (congrArg Outline.producer same) e

end SetQueue

section Find

theorem find?_some (found : s.find? n name = some i) :
    i < n ∧ (s.register.title i).isNamed name = true :=
  ⟨List.mem_range.mp (List.mem_of_find?_eq_some found),
    List.find?_some (p := fun i => (s.entries.getD i default).isNamed name) found⟩

theorem find?_none (built : s.Built g) (missing : s.find? g.maxQueues name = none) (i : Nat) :
    (s.register.title i).isNamed name = false := by
  by_cases inside : i < g.maxQueues
  · have other := List.find?_eq_none.mp missing i (List.mem_range.mpr inside)
    exact Bool.eq_false_iff.mpr other
  · rw [Bool.eq_false_iff]
    intro named
    exact inside (built.within.entries i (Title.isNamed_iff.mp named).1)

/-- As names tell queues apart, looking for one finds its place and no other. -/
theorem find?_eq_some_iff (built : s.Built g) (consistent : s.register.Consistent) :
    s.find? g.maxQueues name = some i ↔ (s.register.title i).isNamed name = true := by
  refine ⟨fun found => (find?_some found).2, fun named => ?_⟩
  cases found : s.find? g.maxQueues name with
  | none => rw [find?_none built found i] at named; cases named
  | some j =>
    obtain ⟨live, own⟩ := Title.isNamed_iff.mp named
    obtain ⟨otherLive, other⟩ := Title.isNamed_iff.mp (find?_some found).2
    rw [consistent.distinct j i otherLive live (other.trans own.symm)]

theorem freeEntry?_some (free : s.freeEntry? n = some i) :
    i < n ∧ (s.register.title i).live = false := by
  refine ⟨List.mem_range.mp (List.mem_of_find?_eq_some free), ?_⟩
  have vacant := List.find?_some free
  rw [Bool.not_eq_true'] at vacant
  exact vacant

theorem freeEntry?_none (full : s.freeEntry? n = none) (inside : i < n) :
    (s.register.title i).live = true := by
  have taken := List.find?_eq_none.mp full i (List.mem_range.mpr inside)
  rw [Bool.not_eq_true', Bool.not_eq_false] at taken
  exact taken

theorem freeBlock?_some (free : s.freeBlock? n = some b) : b < n ∧ s.register.serves b = none :=
  ⟨List.mem_range.mp (List.mem_of_find?_eq_some free),
    Option.isNone_iff_eq_none.mp
      (List.find?_some (p := fun b => (s.blocks.getD b default).queue.isNone) free)⟩

theorem freeBlock?_none (full : s.freeBlock? n = none) (inside : b < n) :
    s.register.serves b ≠ none := by
  intro free
  exact List.find?_eq_none.mp full b (List.mem_range.mpr inside) (Option.isNone_iff_eq_none.mpr free)

theorem freeBlock?_of_freeEntry? (built : s.Built g) (consistent : s.register.Consistent)
    (free : s.freeEntry? g.maxQueues = some i) : ∃ b, s.freeBlock? g.maxQueues = some b := by
  cases pool : s.freeBlock? g.maxQueues with
  | some b => exact ⟨b, rfl⟩
  | none =>
    obtain ⟨inside, vacant⟩ := freeEntry?_some free
    have live := consistent.full built.within (fun b => freeBlock?_none pool) i inside
    rw [vacant] at live
    cases live

end Find

section CreateQueue

variable {consumers : Nat}

/-- Laying a queue out fails without a trace, or takes a free place and a free block. -/
theorem createQueue_cases (s : Segment) (g : Geometry) (name : String) (consumers : Nat) :
    (∃ cause, s.createQueue g name consumers = (s, .error cause)) ∨
      ∃ i b, s.freeEntry? g.maxQueues = some i ∧ s.freeBlock? g.maxQueues = some b ∧
        LengthWord.size < ringLength g.queueSize consumers ∧
        s.createQueue g name consumers =
          (s.setQueueAt i b
            ⟨(s.queueAt i b).entry.format name consumers (ringLength g.queueSize consumers) b,
              (s.queueAt i b).sync.assign i consumers⟩, .ok ()) := by
  simp only [createQueue]
  split
  · exact .inl ⟨_, rfl⟩
  · rename_i room
    cases place : s.freeEntry? g.maxQueues with
    | none => exact .inl ⟨_, rfl⟩
    | some i =>
      cases pool : s.freeBlock? g.maxQueues with
      | none => exact .inl ⟨_, rfl⟩
      | some b => exact .inr ⟨i, b, rfl, rfl, Nat.lt_of_not_le room, rfl⟩

theorem register_format (built : s.Built g) (place : s.freeEntry? g.maxQueues = some i)
    (pool : s.freeBlock? g.maxQueues = some b) (name : String) (consumers ringLen : Nat) :
    (s.setQueueAt i b
      ⟨(s.queueAt i b).entry.format name consumers ringLen b,
        (s.queueAt i b).sync.assign i consumers⟩).register = s.register.layOut i b name :=
  register_setQueue (h := ⟨i, b, name⟩)
    (built.has (freeEntry?_some place).1 (freeBlock?_some pool).1) _

theorem Built.format (built : s.Built g) (i b : Nat) (name : String) {consumers : Nat}
    (few : consumers ≤ g.maxConsumers) (ringLen : Nat) :
    (s.setQueueAt i b
      ⟨(s.queueAt i b).entry.format name consumers ringLen b,
        (s.queueAt i b).sync.assign i consumers⟩).Built g := by
  refine built.setQueue (h := ⟨i, b, name⟩) ?_ Array.size_mapIdx
  change (Array.ofFn _).size ≤ _
  rw [Array.size_ofFn]
  exact few

end CreateQueue

section DropReference

theorem register_remove (built : s.Built g) (i : Nat) (name : String) :
    (s.remove i name).register =
        (if s.register.canRemove i name then s.register.remove i else s.register) ∧
      (s.remove i name).corrupted = (s.corrupted || !s.register.canRemove i name) := by
  have same : ((s.entries.getD i default).isNamed name &&
      (s.blocks.getD (s.entries.getD i default).block default).queue == some i) =
      s.register.canRemove i name := rfl
  cases can : s.register.canRemove i name with
  | false =>
    rw [can] at same
    simp only [remove, same, Bool.false_eq_true, ↓reduceIte, Bool.not_false, Bool.or_true, and_true]
    rfl
  | true =>
    obtain ⟨named, serves⟩ := Register.canRemove_iff.mp can
    have entry : i < g.maxQueues := built.within.entries i (Title.isNamed_iff.mp named).1
    have block := built.within.blocks _ i serves
    rw [can] at same
    simp only [remove, same, ↓reduceIte, Bool.not_true, Bool.or_false, and_true]
    exact register_setQueue
      (built.has (h := ⟨i, (s.entries.getD i default).block, name⟩) entry block)
      ⟨{ s.entries.getD i default with live := false },
        (s.blocks.getD (s.entries.getD i default).block default).release⟩

theorem Built.remove (built : s.Built g) (i : Nat) (name : String) : (s.remove i name).Built g := by
  simp only [Segment.remove]
  split
  · exact built.setQueue (h := ⟨i, (s.entries.getD i default).block, name⟩)
      (q := ⟨{ s.entries.getD i default with live := false },
        (s.blocks.getD (s.entries.getD i default).block default).release⟩) (built.slots i) rfl
  · exact ⟨built.entries, built.blocks, built.slots, built.latches⟩

theorem Built.dropReference (built : s.Built g) (h : Handle) : (s.dropReference h).Built g := by
  have less : (s.setQueue h (s.queue h).dropReference).Built g :=
    built.setQueue (built.slots h.entry) rfl
  simp only [Segment.dropReference]
  split
  · exact less.remove _ _
  · exact less

theorem register_dropReference (built : s.Built g) (has : s.Has h) :
    (s.dropReference h).register = (s.register.drop h.entry h.name).1 ∧
      (s.dropReference h).corrupted = (s.corrupted || (s.register.drop h.entry h.name).2) := by
  have less : (s.setQueue h (s.queue h).dropReference).register =
      s.register.setReferences h.entry ((s.register.title h.entry).references - 1) :=
    register_setReferences has _ rfl rfl
  have built' : (s.setQueue h (s.queue h).dropReference).Built g :=
    built.setQueue (built.slots h.entry) rfl
  have title := Register.setReferences_title s.register h.entry
    ((s.register.title h.entry).references - 1) h.entry
  have can : (s.register.setReferences h.entry
      ((s.register.title h.entry).references - 1)).canRemove h.entry h.name =
      s.register.canRemove h.entry h.name := by
    simp only [Register.canRemove, Title.isNamed, Title.name, title.1, title.2.1, title.2.2,
      Register.setReferences_serves]
  have count : (s.queue h).dropReference.entry.references =
      (s.register.title h.entry).references - 1 := rfl
  simp only [Segment.dropReference, count, Register.drop]
  split
  · have removed := register_remove built' h.entry h.name
    rw [less, can] at removed
    rw [removed.1, removed.2]
    cases s.register.canRemove h.entry h.name with
    | false => exact ⟨rfl, rfl⟩
    | true => exact ⟨rfl, rfl⟩
  · exact ⟨less, (Bool.or_false _).symm⟩

/-- What a count of references and a place's being taken do not matter to stays as it is in every
entry when a reference is given up. -/
theorem dropReference_entry {β : Type} (f : Entry → β)
    (counted : ∀ e n, f { e with references := n } = f e)
    (freed : ∀ e, f { e with live := false } = f e) (s : Segment) (h : Handle) (e : Nat) :
    f ((s.dropReference h).entries.getD e default) = f (s.entries.getD e default) := by
  have less : f ((s.entries.setIfInBounds h.entry (s.queue h).dropReference.entry).getD e default) =
      f (s.entries.getD e default) := getD_setIfInBounds_same f (counted _ _) e
  simp only [dropReference]
  split
  · simp only [remove]
    split
    · exact (getD_setIfInBounds_same f (freed _) e).trans less
    · exact less
  · exact less

theorem dropReference_block {β : Type} (f : SyncBlock → β) (freed : ∀ b, f b.release = f b)
    (s : Segment) (h : Handle) (b : Nat) :
    f ((s.dropReference h).blocks.getD b default) = f (s.blocks.getD b default) := by
  have less : f ((s.blocks.setIfInBounds h.block (s.queue h).dropReference.sync).getD b default) =
      f (s.blocks.getD b default) := getD_setIfInBounds_same f rfl b
  simp only [dropReference]
  split
  · simp only [remove]
    split
    · exact (getD_setIfInBounds_same f (freed _) b).trans less
    · exact less
  · exact less

end DropReference

end Segment

end RecordExchange
