import RecordExchange.Proofs.Commons.Claiming
import RecordExchange.Proofs.Segment.Layout

set_option autoImplicit false

/-!
# A queue that is laid out fits its entry

An entry is split into its header, one state for each slot, and buffers of one length. A queue is
refused exactly if the buffers would not hold a byte beside a length word; otherwise the parts lie
apart within the queue's bytes, and fewer bytes than there are slots are left over
(`new_queue_fits`).
-/

namespace RecordExchange

/-! ### Splitting an entry -/

/-- The parts of an entry that holds a queue. -/
inductive QueuePart where
  | header
  | slotState (slot : Nat)
  | ring (slot : Nat)
  deriving DecidableEq, Repr

namespace QueuePart

variable {consumers ringLen : Nat}

def IsIn (consumers : Nat) : QueuePart → Prop
  | .header => True
  | .slotState i | .ring i => i < consumers

def place (consumers ringLen : Nat) : QueuePart → Stretch
  | .header => ⟨0, entryHeaderSize⟩
  | .slotState i => ⟨slotStateStart i, slotStateSize⟩
  | .ring i => ⟨bufferStart consumers ringLen i, ringLen⟩

def zone (consumers ringLen : Nat) : QueuePart → Stretch
  | .header => ⟨0, entryHeaderSize⟩
  | .slotState _ => ⟨entryHeaderSize, consumers * slotStateSize⟩
  | .ring _ => ⟨queueHeaderSize consumers, consumers * ringLen⟩

def zoneNumber : QueuePart → Nat
  | .header => 0
  | .slotState _ => 1
  | .ring _ => 2

theorem place_within_zone {part : QueuePart} (h : part.IsIn consumers) :
    (part.place consumers ringLen).Within (part.zone consumers ringLen) := by
  cases part with
  | header => exact ⟨Nat.le_refl _, Nat.le_refl _⟩
  | slotState i => exact Stretch.nth_within _ _ h
  | ring i => exact Stretch.nth_within _ _ h

theorem zone_stop_le {part other : QueuePart} (h : part.zoneNumber < other.zoneNumber) :
    (part.zone consumers ringLen).stop ≤ (other.zone consumers ringLen).start := by
  cases part <;> cases other <;>
    simp only [zoneNumber, zone, Stretch.stop, queueHeaderSize] at h ⊢ <;> omega

theorem zone_stop_le_last (consumers ringLen : Nat) (part : QueuePart) :
    (part.zone consumers ringLen).stop ≤ bufferStart consumers ringLen consumers := by
  cases part <;> simp only [zone, Stretch.stop, bufferStart, queueHeaderSize] <;> omega

theorem place_apart {part other : QueuePart} (h : part.IsIn consumers) (h' : other.IsIn consumers)
    (different : part ≠ other) :
    (part.place consumers ringLen).Apart (other.place consumers ringLen) := by
  have near : (part.place consumers ringLen).Within _ := place_within_zone h
  have near' : (other.place consumers ringLen).Within _ := place_within_zone h'
  rcases Nat.lt_trichotomy part.zoneNumber other.zoneNumber with before | same | behind
  · exact Stretch.Apart.mono (.inl (zone_stop_le before)) near near'
  · cases part <;> cases other <;> simp only [zoneNumber] at same <;> try omega
    case header => exact absurd rfl different
    case slotState i j => exact Stretch.nth_apart fun same => different (congrArg slotState same)
    case ring i j => exact Stretch.nth_apart fun same => different (congrArg ring same)
  · exact Stretch.Apart.mono (.inr (zone_stop_le behind)) near near'

end QueuePart

/-- A queue for so many consumers, with buffers of one length, fits into so many bytes. -/
structure QueueFits (size consumers ringLen : Nat) : Prop where
  /-- The header leaves something over, so that nothing is cut off in the subtraction. -/
  header : queueHeaderSize consumers ≤ size
  /-- A buffer holds a length word and at least one byte more. -/
  roomy : LengthWord.size + 1 ≤ ringLen
  apart : ∀ part other : QueuePart, part.IsIn consumers → other.IsIn consumers → part ≠ other →
    (part.place consumers ringLen).Apart (other.place consumers ringLen)
  within : ∀ part : QueuePart, part.IsIn consumers →
    (part.place consumers ringLen).Within ⟨0, size⟩
  filled : bufferStart consumers ringLen consumers ≤ size
  rest : size < bufferStart consumers ringLen consumers + consumers

section RingLength

variable {size consumers : Nat}

/-- The boundary at which buffers become usable. -/
theorem ringLength_roomy_iff (positive : 1 ≤ consumers) :
    LengthWord.size < ringLength size consumers ↔
      queueHeaderSize consumers + 5 * consumers ≤ size := by
  rw [ringLength, Nat.lt_iff_add_one_le, Nat.le_div_iff_mul_le positive]
  simp only [LengthWord.size]
  omega

theorem ringLength_small_iff (positive : 1 ≤ consumers) :
    ringLength size consumers ≤ LengthWord.size ↔
      size < queueHeaderSize consumers + 5 * consumers := by
  rw [← Nat.not_lt, ringLength_roomy_iff positive, Nat.not_le]

/-- Buffers that are usable fill the entry but for a remainder of the division. -/
theorem queueFits (positive : 1 ≤ consumers)
    (roomy : LengthWord.size < ringLength size consumers) :
    QueueFits size consumers (ringLength size consumers) := by
  have header : queueHeaderSize consumers ≤ size := by
    have := (ringLength_roomy_iff positive).mp roomy
    omega
  have whole := Nat.div_add_mod (size - queueHeaderSize consumers) consumers
  have rest := Nat.mod_lt (size - queueHeaderSize consumers) positive
  have filled : bufferStart consumers (ringLength size consumers) consumers ≤ size := by
    simp only [bufferStart, ringLength]
    omega
  refine ⟨header, roomy, fun part other h h' => QueuePart.place_apart h h', fun part h => ?_,
    filled, ?_⟩
  · refine (QueuePart.place_within_zone h).trans ⟨Nat.zero_le _, ?_⟩
    have last := part.zone_stop_le_last consumers (ringLength size consumers)
    simp only [Stretch.stop] at last ⊢
    omega
  · simp only [bufferStart, ringLength]
    omega

end RingLength

/-! ### What lies in the parts -/

/-- Blocks of one length, one after the other: each is found where its number says. -/
theorem flatten_nth {α : Type} {blocks : List (List α)} {length : Nat}
    (uniform : ∀ block ∈ blocks, block.length = length) {i : Nat} (h : i < blocks.length) :
    (blocks.flatten.drop (i * length)).take length = blocks[i] := by
  induction blocks generalizing i with
  | nil => exact absurd h (Nat.not_lt_zero i)
  | cons block rest ih =>
    have first : block.length = length := uniform block (List.mem_cons_self ..)
    rw [List.flatten_cons]
    cases i with
    | zero => rw [Nat.zero_mul, List.drop_zero, List.take_left' first, List.getElem_cons_zero]
    | succ i =>
      rw [Nat.succ_mul, Nat.add_comm, ← List.drop_drop, List.drop_left' first,
        ih (fun block there => uniform block (List.mem_cons_of_mem _ there))
          (Nat.lt_of_succ_lt_succ h), List.getElem_cons_succ]

theorem length_flatten_uniform {α : Type} {blocks : List (List α)} {length : Nat}
    (uniform : ∀ block ∈ blocks, block.length = length) :
    blocks.flatten.length = blocks.length * length := by
  induction blocks with
  | nil => simp
  | cons block rest ih =>
    rw [List.flatten_cons, List.length_append, uniform block (List.mem_cons_self ..),
      ih fun block there => uniform block (List.mem_cons_of_mem _ there), List.length_cons,
      Nat.succ_mul, Nat.add_comm]

theorem take_drop_middle {α : Type} (before middle behind : List α) (start n : Nat)
    (h : start + n ≤ middle.length) :
    ((before ++ middle ++ behind).drop (before.length + start)).take n =
      (middle.drop start).take n := by
  rw [List.append_assoc, List.drop_length_add_append, List.drop_append_of_le_length (by omega),
    List.take_append_of_le_length (by rw [List.length_drop]; omega)]

theorem Slot.image_length (s : Slot) (start : Nat) : (s.image start).length = slotStateSize := by
  simp [Slot.image, doubleWord, signedWord, LengthWord.size, slotStateSize]

/-- With buffers of one length, the running start of the buffers is a multiple of it. -/
theorem slotImages_eq {slots : List Slot} {ringLen : Nat}
    (uniform : ∀ s ∈ slots, s.ring.capacity = ringLen) (start : Nat) :
    slotImages slots start = (slots.mapIdx fun i s => s.image (start + i * ringLen)).flatten := by
  induction slots generalizing start with
  | nil => rfl
  | cons s rest ih =>
    have first : s.ring.capacity = ringLen := uniform s (List.mem_cons_self ..)
    change s.image start ++ slotImages rest (start + s.ring.capacity) = _
    rw [ih (fun s there => uniform s (List.mem_cons_of_mem _ there)), first, List.mapIdx_cons,
      List.flatten_cons, Nat.zero_mul, Nat.add_zero]
    simp only [Nat.succ_mul, Nat.add_assoc, Nat.add_comm ringLen]

theorem foldl_append_toList (blocks : List (Array UInt8)) (front : Array UInt8) :
    (blocks.foldl (· ++ ·) front).toList = front.toList ++ (blocks.map Array.toList).flatten := by
  induction blocks generalizing front with
  | nil => simp
  | cons block rest ih =>
    rw [List.foldl_cons, ih, Array.toList_append, List.map_cons, List.flatten_cons,
      List.append_assoc]

namespace Entry

variable {e : Entry} {consumers ringLen : Nat}

def bytesAt (e : Entry) (x : Stretch) : List UInt8 :=
  (e.image.toList.drop (x.start - entryHeaderSize)).take x.length

/-- The entry's memory is split for so many consumers with buffers of one length: where the parts of
a queue are to lie, there lie the state of each slot, with the place of its buffer, and the
buffer. -/
structure IsSplit (e : Entry) (consumers ringLen : Nat) : Prop where
  slots : e.slots.size = consumers
  rings : ∀ i, i < consumers → (e.slots.getD i default).ring.capacity = ringLen
  states : ∀ i, i < consumers → e.bytesAt ((QueuePart.slotState i).place consumers ringLen) =
    (e.slots.getD i default).image (bufferStart consumers ringLen i)
  buffers : ∀ i, i < consumers → e.bytesAt ((QueuePart.ring i).place consumers ringLen) =
    (e.slots.getD i default).ring.bytes.toList

theorem isSplit_of_rings (slots : e.slots.size = consumers)
    (rings : ∀ i, i < consumers → (e.slots.getD i default).ring.capacity = ringLen) :
    e.IsSplit consumers ringLen := by
  have length : e.slots.toList.length = consumers := slots
  have slot (i : Nat) (h : i < e.slots.toList.length) :
      e.slots.getD i default = e.slots.toList[i] := by
    rw [Array.getD_eq_getD_getElem?, Array.getElem?_eq_getElem h, Option.getD_some]
    rfl
  have uniform : ∀ s ∈ e.slots.toList, s.ring.capacity = ringLen := by
    intro s there
    obtain ⟨i, inside, rfl⟩ := List.mem_iff_getElem.mp there
    rw [← slot i inside]
    exact rings i (length ▸ inside)
  let states := e.slots.toList.mapIdx fun i s => s.image (queueHeaderSize consumers + i * ringLen)
  let buffers := e.slots.toList.map fun s => s.ring.bytes.toList
  have memory : e.image.toList = states.flatten ++ buffers.flatten ++ e.spare.toList := by
    simp only [image, Array.toList_append, foldl_append_toList, slotImages_eq uniform, length,
      List.map_map, List.nil_append]
    rfl
  have sizes : ∀ block ∈ states, block.length = slotStateSize := by
    intro block there
    obtain ⟨i, _, rfl⟩ := List.mem_mapIdx.mp there
    exact Slot.image_length _ _
  have sizes' : ∀ block ∈ buffers, block.length = ringLen := by
    intro block there
    obtain ⟨s, slot, rfl⟩ := List.mem_map.mp there
    exact uniform s slot
  have count : states.length = consumers := (List.length_mapIdx ..).trans length
  have count' : buffers.length = consumers := (List.length_map ..).trans length
  refine ⟨slots, rings, fun i inside => ?_, fun i inside => ?_⟩
  · have room := (Stretch.nth_within 0 slotStateSize inside).2
    have found := take_drop_middle [] states.flatten (buffers.flatten ++ e.spare.toList)
      (i * slotStateSize) slotStateSize (by
        rw [length_flatten_uniform sizes, count]
        simpa [Stretch.stop, Stretch.nth] using room)
    rw [flatten_nth sizes (count.symm ▸ inside)] at found
    simp only [bytesAt, QueuePart.place, slotStateStart, Nat.add_sub_cancel_left, memory]
    simp only [List.nil_append, List.length_nil, Nat.zero_add, ← List.append_assoc] at found
    rw [found, slot i (length.symm ▸ inside)]
    exact List.getElem_mapIdx ..
  · have room := (Stretch.nth_within 0 ringLen inside).2
    have found := take_drop_middle states.flatten buffers.flatten e.spare.toList
      (i * ringLen) ringLen (by
        rw [length_flatten_uniform sizes', count']
        simpa [Stretch.stop, Stretch.nth] using room)
    rw [flatten_nth sizes' (count'.symm ▸ inside), length_flatten_uniform sizes, count] at found
    have start : bufferStart consumers ringLen i - entryHeaderSize =
        consumers * slotStateSize + i * ringLen := by
      simp only [bufferStart, queueHeaderSize]
      omega
    simp only [bytesAt, QueuePart.place, start, memory]
    rw [found, slot i (length.symm ▸ inside)]
    exact List.getElem_map ..

/-- An entry that is laid out is split as its buffers' length says. -/
theorem format_isSplit (e : Entry) (name : String) (consumers ringLen block : Nat) :
    (e.format name consumers ringLen block).IsSplit consumers ringLen := by
  refine isSplit_of_rings Array.size_ofFn fun i inside => ?_
  rw [format_slot e name ringLen block inside]
  exact cells_size _ _ _

end Entry

/-! ### Claiming a queue that is not there -/

namespace Segment

variable {s : Segment} {g : Geometry} {live : Liveness} {session : Session} {name : String}
  {consumers : Nat}

/-- A claim on a queue that is not there sets it up, or fails in doing so. -/
theorem acquire_absent (accepted : claimFault? g name consumers = none)
    (alive : live.check = .ok ()) (absent : s.find? g.maxQueues name = none) (retryLimit : Nat) :
    s.acquire g live retryLimit session name consumers = s.createQueue g name consumers := by
  rw [acquire_eq accepted, tryAcquire, alive]
  simp only [absent]
  obtain ⟨t, result⟩ := s.createQueue g name consumers
  cases result <;> rfl

theorem createQueue_small (small : ringLength g.queueSize consumers ≤ LengthWord.size) :
    s.createQueue g name consumers = (s, .error (.segmentTooSmall g.queueSize consumers)) :=
  if_pos small

/-- With buffers that are long enough, a queue is not refused for want of space. -/
theorem createQueue_roomy (roomy : LengthWord.size < ringLength g.queueSize consumers)
    (size other : Nat) :
    (s.createQueue g name consumers).2 ≠ .error (.segmentTooSmall size other) := by
  intro failed
  rw [createQueue, if_neg (Nat.not_le_of_lt roomy)] at failed
  split at failed
  · cases failed
  · split at failed <;> cases failed

/-- A queue that was set up has its slots and its buffers in the entry of its place. -/
theorem createQueue_splits (built : s.Built g) (valid : isQueueName name = true)
    (made : (s.createQueue g name consumers).2 = .ok ()) :
    LengthWord.size < ringLength g.queueSize consumers ∧
      ∃ i, i < g.maxQueues ∧ (s.entries.getD i default).live = false ∧
        s.LaysOut (s.createQueue g name consumers).1 i name consumers ∧
        ((s.createQueue g name consumers).1.entries.getD i default).IsSplit consumers
          (ringLength g.queueSize consumers) := by
  rcases createQueue_cases s g name consumers with
    ⟨cause, failed⟩ | ⟨i, b, place, pool, roomy, created⟩
  · rw [failed] at made
    cases made
  · obtain ⟨inside, vacant⟩ := freeEntry?_some place
    obtain ⟨inside', unserved⟩ := freeBlock?_some pool
    have present : i < s.entries.size := built.entries.symm ▸ inside
    rw [created]
    refine ⟨roomy, i, inside, vacant, ?_, ?_⟩
    · exact format_laysOut valid present (built.blocks.symm ▸ inside') unserved consumers _
    · rw [setQueueAt_entry present]
      exact Entry.format_isSplit ..

end Segment

namespace Commons

/-- For every size of a queue and every number of consumers: buffers are too short exactly if the
size is below that of the header and five bytes for each consumer. If they are not, the parts of a
queue fit the entry. And after every run, a claim on a queue that is not there fails for want of
space exactly if they are too short, which leaves no trace; one that creates the queue splits an
entry as said. -/
theorem new_queue_fits (c : Config) (creator : ProcessId) (moves : List Move) (consumers : Nat)
    (positive : 1 ≤ consumers) :
    let x := (start c creator).run moves
    let ringLen := ringLength c.queueSize consumers
    (ringLen ≤ LengthWord.size ↔ c.queueSize < queueHeaderSize consumers + 5 * consumers) ∧
      (LengthWord.size < ringLen → QueueFits c.queueSize consumers ringLen) ∧
      ∀ live retryLimit session name, Segment.claimFault? x.geometry name consumers = none →
        live.check = .ok () → x.memory.find? x.geometry.maxQueues name = none →
        let out := x.memory.acquire x.geometry live retryLimit session name consumers
        (ringLen ≤ LengthWord.size ↔
            out.2 = .error (.segmentTooSmall c.queueSize consumers)) ∧
          (ringLen ≤ LengthWord.size → out.1 = x.memory) ∧
          (out.2 = .ok () → LengthWord.size < ringLen ∧
            ∃ i, i < c.maxQueues ∧ (x.memory.entries.getD i default).live = false ∧
              x.memory.LaysOut out.1 i name consumers ∧
              (out.1.entries.getD i default).IsSplit consumers ringLen) := by
  intro x ringLen
  have founded : x.Founded := (Founded.start c creator).run moves
  have sizes : x.geometry = ⟨c.maxQueues, c.maxConsumers, c.queueSize⟩ := run_geometry ..
  have queues : x.geometry.maxQueues = c.maxQueues := congrArg Geometry.maxQueues sizes
  have bytes : x.geometry.queueSize = c.queueSize := congrArg Geometry.queueSize sizes
  refine ⟨ringLength_small_iff positive, queueFits positive, ?_⟩
  intro live retryLimit session name accepted alive absent out
  have created : out = x.memory.createQueue x.geometry name consumers :=
    Segment.acquire_absent accepted alive absent retryLimit
  have valid := (Segment.claimFault?_eq_none.mp accepted).1
  have refused (small : ringLen ≤ LengthWord.size) :
      out = (x.memory, .error (.segmentTooSmall c.queueSize consumers)) := by
    rw [created, ← bytes]
    exact Segment.createQueue_small (bytes.symm ▸ small)
  refine ⟨⟨fun small => congrArg Prod.snd (refused small), fun failed => ?_⟩,
    fun small => congrArg Prod.fst (refused small), fun made => ?_⟩
  · by_contra roomy
    rw [created] at failed
    exact Segment.createQueue_roomy (bytes.symm ▸ Nat.lt_of_not_le roomy) _ _ failed
  · rw [created] at made ⊢
    have splits := Segment.createQueue_splits founded.built valid made
    rw [queues, bytes] at splits
    exact splits

/-- In 197 bytes there is room for one consumer, with a buffer of five bytes, and not for two. -/
theorem new_queue_fits_narrow :
    let first := Segment.claimFault? (start narrow 1).geometry "rows" 1
    let found := (start narrow 1).memory.find? (start narrow 1).geometry.maxQueues "rows"
    let out := (start narrow 1).memory.acquire (start narrow 1).geometry undisturbed 1 ⟨100, 0⟩
      "rows" 1
    first = none ∧ undisturbed.check = .ok () ∧ found = none ∧ out.2 = .ok () ∧
      QueueFits 197 1 5 ∧ ringLength 197 2 ≤ LengthWord.size ∧
      ∃ i, i < narrow.maxQueues ∧ (out.1.entries.getD i default).IsSplit 1 5 := by
  intro first found out
  have accepted : first = none := by decide +kernel
  have absent : found = none := by decide +kernel
  have made : out.2 = .ok () := by decide +kernel
  obtain ⟨-, fits, claim⟩ := new_queue_fits narrow 1 [] 1 (by decide)
  obtain ⟨small, -, -⟩ := new_queue_fits narrow 1 [] 2 (by decide)
  obtain ⟨-, -, splits⟩ := claim undisturbed 1 ⟨100, 0⟩ "rows" accepted rfl absent
  obtain ⟨roomy, i, inside, -, -, split⟩ := splits made
  exact ⟨accepted, rfl, absent, made, fits roomy, small.mpr (by decide), i, inside, split⟩

end Commons

end RecordExchange
