import Mathlib.Algebra.Group.Nat.Defs
import RecordExchange.Segment.Basic

set_option autoImplicit false

/-!
# The regions of a segment lie apart

Offsets in a segment are sums, products and roundings of 64-bit words. Each of them is the word of
the exact number, as long as the roundings stay within a word (`start_eq_word`); and the exact
places follow each other in a row: header, lock, sync blocks, entries, and within a block its
header, the latch owners and the cells. So while the exact total is a word too, no two regions of
the segment share a byte and none reaches beyond the total (`regions_apart`).
-/

namespace RecordExchange

/-! ### Stretches of bytes -/

structure Stretch where
  start : Nat
  length : Nat
  deriving DecidableEq, Repr

namespace Stretch

def stop (x : Stretch) : Nat := x.start + x.length

/-- One stretch ends before the other starts. -/
def Apart (x y : Stretch) : Prop := x.stop ≤ y.start ∨ y.stop ≤ x.start

/-- All bytes of the first stretch are bytes of the second. -/
def Within (x y : Stretch) : Prop := y.start ≤ x.start ∧ x.stop ≤ y.stop

instance (x y : Stretch) : Decidable (x.Apart y) := inferInstanceAs (Decidable (_ ∨ _))
instance (x y : Stretch) : Decidable (x.Within y) := inferInstanceAs (Decidable (_ ∧ _))

/-- Number `i` of stretches of one length that follow each other from `base` on. -/
def nth (base length i : Nat) : Stretch := ⟨base + i * length, length⟩

theorem Apart.symm {x y : Stretch} (h : x.Apart y) : y.Apart x := Or.symm h

theorem Apart.mono {x y a b : Stretch} (h : a.Apart b) (left : x.Within a) (right : y.Within b) :
    x.Apart y := by
  simp only [Apart, Within] at *
  omega

theorem Within.trans {x y z : Stretch} (h : x.Within y) (h' : y.Within z) : x.Within z := by
  simp only [Within] at *
  omega

theorem nth_stop (base length i : Nat) : (nth base length i).stop = base + (i + 1) * length := by
  simp only [stop, nth, Nat.add_mul, Nat.one_mul, Nat.add_assoc]

theorem nth_apart {base length i j : Nat} (h : i ≠ j) :
    (nth base length i).Apart (nth base length j) := by
  simp only [Apart, nth_stop]
  rcases Nat.lt_or_gt_of_ne h with h | h
  · have := Nat.mul_le_mul_right length (show i + 1 ≤ j from h)
    exact .inl (by simp only [nth]; omega)
  · have := Nat.mul_le_mul_right length (show j + 1 ≤ i from h)
    exact .inr (by simp only [nth]; omega)

/-- The first `count` stretches in a row lie within the bytes they take up together. -/
theorem nth_within (base length : Nat) {i count : Nat} (h : i < count) :
    (nth base length i).Within ⟨base, count * length⟩ := by
  have := Nat.mul_le_mul_right length (show i + 1 ≤ count from h)
  refine ⟨Nat.le_add_right _ _, ?_⟩
  rw [nth_stop]
  simp only [stop]
  omega

end Stretch

/-! ### Regions -/

/-- The cells of a sync block, each of which holds a lock or a latch. -/
inductive SyncCell where
  | producerLock
  | producerLatch
  | consumerLock (consumer : Nat)
  | consumerLatch (consumer : Nat)
  deriving DecidableEq, Repr

inductive BlockPart where
  | header
  | latchOwner (consumer : Nat)
  | cell (role : SyncCell)
  deriving DecidableEq, Repr

inductive Region where
  | segmentHeader
  | registryLock
  | block (block : Nat) (part : BlockPart)
  | entry (index : Nat)
  deriving DecidableEq, Repr

namespace SyncCell

def number : SyncCell → Nat
  | producerLock => 0
  | producerLatch => 1
  | consumerLock c => 2 + 2 * c
  | consumerLatch c => 3 + 2 * c

def IsIn (consumers : Nat) : SyncCell → Prop
  | producerLock | producerLatch => True
  | consumerLock c | consumerLatch c => c < consumers

instance (consumers : Nat) : (cell : SyncCell) → Decidable (cell.IsIn consumers)
  | producerLock | producerLatch => isTrue trivial
  | consumerLock c | consumerLatch c => inferInstanceAs (Decidable (c < consumers))

theorem number_injective {cell other : SyncCell} (h : cell.number = other.number) :
    cell = other := by
  cases cell <;> cases other <;> simp only [number] at h <;> first | rfl | omega | (congr 1; omega)

theorem IsIn.number_lt {consumers : Nat} {cell : SyncCell} (h : cell.IsIn consumers) :
    cell.number < 2 + 2 * consumers := by
  cases cell <;> simp only [IsIn, number] at * <;> omega

end SyncCell

def BlockPart.IsIn (consumers : Nat) : BlockPart → Prop
  | .header => True
  | .latchOwner c => c < consumers
  | .cell role => role.IsIn consumers

instance (consumers : Nat) : (part : BlockPart) → Decidable (part.IsIn consumers)
  | .header => isTrue trivial
  | .latchOwner c => inferInstanceAs (Decidable (c < consumers))
  | .cell role => inferInstanceAs (Decidable (role.IsIn consumers))

def Region.IsIn (g : Geometry) : Region → Prop
  | .segmentHeader | .registryLock => True
  | .block b part => b < g.maxQueues ∧ part.IsIn g.maxConsumers
  | .entry i => i < g.maxQueues

instance (g : Geometry) : (r : Region) → Decidable (r.IsIn g)
  | .segmentHeader | .registryLock => isTrue trivial
  | .block b part =>
    inferInstanceAs (Decidable (b < g.maxQueues ∧ part.IsIn g.maxConsumers))
  | .entry i => inferInstanceAs (Decidable (i < g.maxQueues))

def Region.zoneNumber : Region → Nat
  | .segmentHeader => 0
  | .registryLock => 1
  | .block _ _ => 2
  | .entry _ => 3

/-- The regions meant to start with a cache line: all cells and all entries. -/
def Region.IsAligned : Region → Prop
  | .registryLock | .block _ (.cell _) | .entry _ => True
  | .segmentHeader | .block _ .header | .block _ (.latchOwner _) => False

namespace Layout

variable (l : Layout)

def cellStart (block : UInt64) : SyncCell → UInt64
  | .producerLock => l.producerLock block
  | .producerLatch => l.producerLatch block
  | .consumerLock c => l.consumerLock block (word c)
  | .consumerLatch c => l.consumerLatch block (word c)

def start : Region → UInt64
  | .segmentHeader => 0
  | .registryLock => l.registryLock
  | .block b .header => l.syncBlock (word b)
  | .block b (.latchOwner c) => l.consumerLatchOwner (word b) (word c)
  | .block b (.cell cell) => l.cellStart (word b) cell
  | .entry i => l.entry (word i)

def length : Region → Nat
  | .segmentHeader => segmentHeaderSize
  | .registryLock => l.stride.toNat
  | .block _ .header => syncHeaderSize
  | .block _ (.latchOwner _) => ownerSize
  | .block _ (.cell _) => l.stride.toNat
  | .entry _ => max l.geometry.queueSize entryHeaderSize

def region (r : Region) : Stretch := ⟨(l.start r).toNat, l.length r⟩

end Layout

/-! ### Exact places -/

/-- The least multiple of the cache line that is not below a number. -/
def roundUp (n : Nat) : Nat := (n + (cacheLine - 1)) / cacheLine * cacheLine

theorem le_roundUp (n : Nat) : n ≤ roundUp n := by
  simp only [roundUp, cacheLine]
  omega

theorem roundUp_lt (n : Nat) : roundUp n < n + cacheLine := by
  simp only [roundUp, cacheLine]
  omega

theorem cacheLine_dvd_roundUp (n : Nat) : cacheLine ∣ roundUp n := Nat.dvd_mul_left _ _

namespace Layout

variable (l : Layout)

def headerBytes : Nat := roundUp (syncHeaderSize + l.geometry.maxConsumers * ownerSize)

def blockBytes : Nat := l.headerBytes + (2 + 2 * l.geometry.maxConsumers) * l.stride.toNat

def entryBytes : Nat := roundUp (max l.geometry.queueSize entryHeaderSize)

def lockPlace : Stretch := ⟨cacheLine, l.stride.toNat⟩

def blockPlace (block : Nat) : Stretch := .nth l.lockPlace.stop l.blockBytes block

def entriesStart : Nat := l.lockPlace.stop + l.geometry.maxQueues * l.blockBytes

def entryPlace (index : Nat) : Stretch := .nth l.entriesStart l.entryBytes index

def totalBytes : Nat := l.entriesStart + l.geometry.maxQueues * l.entryBytes

def partPlace : BlockPart → Stretch
  | .header => ⟨0, syncHeaderSize⟩
  | .latchOwner c => .nth syncHeaderSize ownerSize c
  | .cell cell => .nth l.headerBytes l.stride.toNat cell.number

def place : Region → Stretch
  | .segmentHeader => ⟨0, segmentHeaderSize⟩
  | .registryLock => l.lockPlace
  | .block b part => ⟨(l.blockPlace b).start + (l.partPlace part).start, (l.partPlace part).length⟩
  | .entry i => ⟨(l.entryPlace i).start, max l.geometry.queueSize entryHeaderSize⟩

theorem place_length (r : Region) : (l.place r).length = l.length r := by
  rcases r with _ | _ | ⟨b, _ | c | cell⟩ | i <;> rfl

variable {l}

theorem owners_le_headerBytes :
    syncHeaderSize + l.geometry.maxConsumers * ownerSize ≤ l.headerBytes := le_roundUp _

/-- The header of a block lies in front of its latch owners. -/
theorem header_apart_owner (c : Nat) :
    (l.partPlace .header).Apart (l.partPlace (.latchOwner c)) :=
  .inl (Nat.le_add_right _ _)

theorem latchOwner_within {c : Nat} (h : c < l.geometry.maxConsumers) :
    (l.partPlace (.latchOwner c)).Within ⟨0, l.headerBytes⟩ := by
  have inside := Stretch.nth_within syncHeaderSize ownerSize h
  have room := owners_le_headerBytes (l := l)
  refine inside.trans ⟨Nat.zero_le _, ?_⟩
  simp only [Stretch.stop]
  omega

theorem header_within : (l.partPlace .header).Within ⟨0, l.headerBytes⟩ := by
  have room := owners_le_headerBytes (l := l)
  refine ⟨Nat.le_refl _, ?_⟩
  simp only [partPlace, Stretch.stop]
  omega

theorem cell_within {cell : SyncCell} (h : cell.IsIn l.geometry.maxConsumers) :
    (l.partPlace (.cell cell)).Within
      ⟨l.headerBytes, (2 + 2 * l.geometry.maxConsumers) * l.stride.toNat⟩ :=
  Stretch.nth_within _ _ h.number_lt

theorem partPlace_within {part : BlockPart} (h : part.IsIn l.geometry.maxConsumers) :
    (l.partPlace part).Within ⟨0, l.blockBytes⟩ := by
  cases part with
  | header => exact header_within.trans ⟨Nat.le_refl _, by simp [Stretch.stop, blockBytes]⟩
  | latchOwner c =>
    exact (latchOwner_within h).trans ⟨Nat.le_refl _, by simp [Stretch.stop, blockBytes]⟩
  | cell cell => exact (cell_within h).trans ⟨Nat.zero_le _, by simp [Stretch.stop, blockBytes]⟩

theorem apart_cell {x : Stretch} {cell : SyncCell} (h : x.Within ⟨0, l.headerBytes⟩)
    (inside : cell.IsIn l.geometry.maxConsumers) : x.Apart (l.partPlace (.cell cell)) :=
  Stretch.Apart.mono (.inl (by simp [Stretch.stop])) h (cell_within inside)

theorem partPlace_apart {part other : BlockPart} (h : part.IsIn l.geometry.maxConsumers)
    (h' : other.IsIn l.geometry.maxConsumers) (different : part ≠ other) :
    (l.partPlace part).Apart (l.partPlace other) := by
  cases part with
  | header =>
    cases other with
    | header => exact absurd rfl different
    | latchOwner c => exact header_apart_owner c
    | cell cell => exact apart_cell header_within h'
  | latchOwner c =>
    cases other with
    | header => exact (header_apart_owner c).symm
    | latchOwner c' => exact Stretch.nth_apart fun same => different (same ▸ rfl)
    | cell cell => exact apart_cell (latchOwner_within h) h'
  | cell cell =>
    cases other with
    | header => exact (apart_cell header_within h).symm
    | latchOwner c => exact (apart_cell (latchOwner_within h') h).symm
    | cell cell' =>
      exact Stretch.nth_apart fun same => different (SyncCell.number_injective same ▸ rfl)

theorem place_within_block {b : Nat} {part : BlockPart} (h : part.IsIn l.geometry.maxConsumers) :
    (l.place (.block b part)).Within (l.blockPlace b) := by
  have inside := (partPlace_within h).2
  refine ⟨Nat.le_add_right _ _, ?_⟩
  simp only [place, blockPlace, Stretch.nth, Stretch.stop] at inside ⊢
  omega

theorem place_within_entry (i : Nat) : (l.place (.entry i)).Within (l.entryPlace i) :=
  ⟨Nat.le_refl _, Nat.add_le_add_left (le_roundUp _) _⟩

theorem blockPlace_within {b : Nat} (h : b < l.geometry.maxQueues) :
    (l.blockPlace b).Within ⟨l.lockPlace.stop, l.geometry.maxQueues * l.blockBytes⟩ :=
  Stretch.nth_within _ _ h

theorem entryPlace_within {i : Nat} (h : i < l.geometry.maxQueues) :
    (l.entryPlace i).Within ⟨l.entriesStart, l.geometry.maxQueues * l.entryBytes⟩ :=
  Stretch.nth_within _ _ h

/-- The zone of a segment a region lies in: the first cache line, the registry lock's cell, the pool
of sync blocks, or the entries. -/
def zone (l : Layout) : Region → Stretch
  | .segmentHeader => ⟨0, cacheLine⟩
  | .registryLock => l.lockPlace
  | .block _ _ => ⟨l.lockPlace.stop, l.geometry.maxQueues * l.blockBytes⟩
  | .entry _ => ⟨l.entriesStart, l.geometry.maxQueues * l.entryBytes⟩

theorem place_within_zone {r : Region} (h : r.IsIn l.geometry) :
    (l.place r).Within (l.zone r) := by
  cases r with
  | segmentHeader => exact ⟨Nat.le_refl _, by simp [place, zone, Stretch.stop, segmentHeaderSize,
      cacheLine]⟩
  | registryLock => exact ⟨Nat.le_refl _, Nat.le_refl _⟩
  | block b part => exact (place_within_block h.2).trans (blockPlace_within h.1)
  | entry i => exact (place_within_entry i).trans (entryPlace_within h)

theorem zone_stop_le {r r' : Region} (h : r.zoneNumber < r'.zoneNumber) :
    (l.zone r).stop ≤ (l.zone r').start := by
  cases r <;> cases r' <;> simp only [Region.zoneNumber, zone, Stretch.stop, lockPlace,
    entriesStart] at h ⊢ <;> omega

theorem zone_stop_le_totalBytes (r : Region) : (l.zone r).stop ≤ l.totalBytes := by
  cases r <;> simp only [zone, Stretch.stop, totalBytes, entriesStart, lockPlace] <;> omega

theorem place_within {r : Region} (h : r.IsIn l.geometry) :
    (l.place r).Within ⟨0, l.totalBytes⟩ := by
  refine (place_within_zone h).trans ⟨Nat.zero_le _, ?_⟩
  simpa only [Stretch.stop, Nat.zero_add] using zone_stop_le_totalBytes (l := l) r

/-- No two regions share a byte. -/
theorem place_apart {r r' : Region} (h : r.IsIn l.geometry) (h' : r'.IsIn l.geometry)
    (different : r ≠ r') : (l.place r).Apart (l.place r') := by
  have near := place_within_zone h
  have near' := place_within_zone h'
  rcases Nat.lt_trichotomy r.zoneNumber r'.zoneNumber with before | same | behind
  · exact Stretch.Apart.mono (.inl (zone_stop_le before)) near near'
  · cases r <;> cases r' <;> simp only [Region.zoneNumber] at same <;> try omega
    case segmentHeader => exact absurd rfl different
    case registryLock => exact absurd rfl different
    case block b part b' part' =>
      by_cases one : b = b'
      · subst one
        have parts := partPlace_apart h.2 h'.2 fun same => different (same ▸ rfl)
        simp only [place, Stretch.Apart, Stretch.stop] at parts ⊢
        omega
      · exact (Stretch.nth_apart one).mono (place_within_block h.2) (place_within_block h'.2)
    case entry i i' =>
      have other : i ≠ i' := fun same => different (congrArg Region.entry same)
      exact (Stretch.nth_apart other).mono (place_within_entry i) (place_within_entry i')
  · exact Stretch.Apart.mono (.inr (zone_stop_le behind)) near near'

/-! ### Alignment -/

theorem dvd_blockBytes (h : cacheLine ∣ l.stride.toNat) : cacheLine ∣ l.blockBytes :=
  Nat.dvd_add (cacheLine_dvd_roundUp _) (Nat.dvd_mul_left_of_dvd h _)

theorem dvd_lockPlace_stop (h : cacheLine ∣ l.stride.toNat) : cacheLine ∣ l.lockPlace.stop :=
  Nat.dvd_add (Nat.dvd_refl _) h

theorem dvd_entriesStart (h : cacheLine ∣ l.stride.toNat) : cacheLine ∣ l.entriesStart :=
  Nat.dvd_add (dvd_lockPlace_stop h) (Nat.dvd_mul_left_of_dvd (dvd_blockBytes h) _)

/-- With cells of whole cache lines, every cell and every entry starts with one. -/
theorem dvd_place_start (h : cacheLine ∣ l.stride.toNat) {r : Region} (aligned : r.IsAligned) :
    cacheLine ∣ (l.place r).start := by
  cases r with
  | segmentHeader => exact aligned.elim
  | registryLock => exact Nat.dvd_refl _
  | block b part =>
    cases part with
    | header => exact aligned.elim
    | latchOwner c => exact aligned.elim
    | cell role =>
      have block : cacheLine ∣ (l.blockPlace b).start :=
        Nat.dvd_add (dvd_lockPlace_stop h) (Nat.dvd_mul_left_of_dvd (dvd_blockBytes h) _)
      exact Nat.dvd_add block (Nat.dvd_add (cacheLine_dvd_roundUp _) (Nat.dvd_mul_left_of_dvd h _))
  | entry i =>
    exact Nat.dvd_add (dvd_entriesStart h)
      (Nat.dvd_mul_left_of_dvd (cacheLine_dvd_roundUp _) _)

/-! ### Offsets in 64-bit words -/

@[simp] theorem word_add (n m : Nat) : word (n + m) = word n + word m := UInt64.ofNat_add n m

@[simp] theorem word_mul (n m : Nat) : word (n * m) = word n * word m := UInt64.ofNat_mul n m

@[simp] theorem word_toNat (w : UInt64) : word w.toNat = w := UInt64.ofNat_toNat

theorem toNat_word {n : Nat} (h : n < 2 ^ 64) : (word n).toNat = n :=
  UInt64.toNat_ofNat_of_lt' h

/-- Rounding up in words is exact where its result is a word. -/
theorem alignUp_word {n : Nat} (h : roundUp n < 2 ^ 64) :
    alignUp (word n) (word cacheLine) = word (roundUp n) := by
  have small : (word n).toNat = n := toNat_word (Nat.lt_of_le_of_lt (le_roundUp n) h)
  apply UInt64.toNat_inj.mp
  rw [toNat_word h]
  simp only [alignUp, UInt64.toNat_mul, UInt64.toNat_div, UInt64.toNat_sub, UInt64.toNat_add, small,
    show (word cacheLine).toNat = 64 from rfl, show (1 : UInt64).toNat = 1 from rfl]
  simp only [roundUp, cacheLine] at h ⊢
  omega

/-- The two roundings of a layout stay within a word. -/
structure Rounds (l : Layout) : Prop where
  header : l.headerBytes < 2 ^ 64
  entry : l.entryBytes < 2 ^ 64

/-- Where there is a queue, a total within a word leaves room for both roundings. -/
theorem rounds_of_room (queues : 0 < l.geometry.maxQueues) (room : l.totalBytes < 2 ^ 64) :
    l.Rounds := by
  have blocks := Nat.le_mul_of_pos_left l.blockBytes queues
  have entries := Nat.le_mul_of_pos_left l.entryBytes queues
  constructor <;> simp only [totalBytes, entriesStart, blockBytes] at * <;> omega

theorem registryLock_eq : l.registryLock = word l.lockPlace.start := by
  simp only [registryLock, lockPlace]
  decide

theorem syncPool_eq : l.syncPool = word l.lockPlace.stop := by
  simp only [syncPool, registryLock_eq, Stretch.stop, lockPlace, word_add, word_toNat]

theorem syncHeader_eq (h : l.Rounds) : l.syncHeader = word l.headerBytes := by
  simp only [syncHeader, ← word_mul, ← word_add]
  exact alignUp_word h.header

theorem syncBlockSize_eq (h : l.Rounds) : l.syncBlockSize = word l.blockBytes := by
  simp only [syncBlockSize, syncHeader_eq h, blockBytes, word_add, word_mul, word_toNat]
  rfl

theorem max_word {n m : Nat} (h : n < 2 ^ 64) (h' : m < 2 ^ 64) :
    max (word n) (word m) = word (max n m) := by
  have order : word n ≤ word m ↔ n ≤ m := by
    rw [UInt64.le_iff_toNat_le, toNat_word h, toNat_word h']
  change (if word n ≤ word m then word m else word n) = _
  by_cases le : n ≤ m
  · rw [if_pos (order.mpr le), Nat.max_eq_right le]
  · rw [if_neg (mt order.mp le), Nat.max_eq_left (Nat.le_of_not_le le)]

theorem entrySize_eq (h : l.Rounds) : l.entrySize = word l.entryBytes := by
  have small := Nat.lt_of_le_of_lt (le_roundUp _) h.entry
  rw [entrySize, max_word (by omega) (by decide)]
  exact alignUp_word h.entry

theorem entries_eq (h : l.Rounds) : l.entries = word l.entriesStart := by
  simp only [entries, syncPool_eq, syncBlockSize_eq h, entriesStart, word_add, word_mul]

theorem syncBlock_eq (h : l.Rounds) (b : Nat) :
    l.syncBlock (word b) = word (l.blockPlace b).start := by
  simp only [syncBlock, syncPool_eq, syncBlockSize_eq h, blockPlace, Stretch.nth, word_add,
    word_mul]

theorem producerLock_eq (h : l.Rounds) (b : Nat) :
    l.producerLock (word b) = word ((l.blockPlace b).start + l.headerBytes) := by
  rw [producerLock, syncBlock_eq h, syncHeader_eq h, word_add]

/-- The cells of a block follow each other in the order of their numbers. -/
theorem cellStart_eq (block : UInt64) (role : SyncCell) :
    l.cellStart block role = l.producerLock block + word role.number * l.stride := by
  have zero : word 0 = 0 := rfl
  have one : word 1 = 1 := rfl
  have two : word 2 = 2 := rfl
  have three : word 3 = 3 := rfl
  cases role <;>
    simp only [cellStart, consumerLatch, consumerLock, producerLatch, SyncCell.number, word_add,
      word_mul, zero, one, two, three] <;>
    grind

/-- The code's offset of a region is the word of its exact place. -/
theorem start_eq_word (room : l.totalBytes < 2 ^ 64) {r : Region} (h : r.IsIn l.geometry) :
    l.start r = word (l.place r).start := by
  cases r with
  | segmentHeader => rfl
  | registryLock => exact registryLock_eq
  | block b part =>
    have rounds := rounds_of_room (Nat.zero_lt_of_lt h.1) room
    cases part with
    | header => exact syncBlock_eq rounds b
    | latchOwner c =>
      simp only [start, consumerLatchOwner, syncBlock_eq rounds, place, partPlace, Stretch.nth,
        word_add, word_mul, UInt64.add_assoc]
    | cell role =>
      simp only [start, cellStart_eq, producerLock_eq rounds, place, partPlace, Stretch.nth,
        word_add, word_mul, word_toNat, UInt64.add_assoc]
  | entry i =>
    have rounds := rounds_of_room (Nat.zero_lt_of_lt h) room
    simp only [start, entry, entries_eq rounds, entrySize_eq rounds, place, entryPlace, Stretch.nth,
      word_add, word_mul]

/-- So it is the exact place. -/
theorem region_eq_place (room : l.totalBytes < 2 ^ 64) {r : Region} (h : r.IsIn l.geometry) :
    l.region r = l.place r := by
  have inside := (place_within h).2
  have small : (l.place r).start < 2 ^ 64 := by
    simp only [Stretch.stop] at inside
    omega
  rw [region, start_eq_word room h, toNat_word small, ← place_length]

/-- The total the code computes is exact whenever the exact total is a word. -/
theorem toNat_totalSize (room : l.totalBytes < 2 ^ 64) : l.totalSize.toNat = l.totalBytes := by
  have exact_word : l.totalSize = word l.totalBytes := by
    rcases Nat.eq_zero_or_pos l.geometry.maxQueues with none | queues
    · have zero : word 0 = 0 := rfl
      simp only [totalSize, entries, syncPool_eq, totalBytes, entriesStart, none, zero,
        Nat.zero_mul, UInt64.zero_mul, UInt64.add_zero, Nat.add_zero]
    · have rounds := rounds_of_room queues room
      simp only [totalSize, entries_eq rounds, entrySize_eq rounds, totalBytes, word_add, word_mul]
  rw [exact_word, toNat_word room]

/-- While the exact total is a 64-bit word, the regions of a segment are pairwise disjoint and lie
within the total size; and with cells of whole cache lines every cell and every entry starts with a
cache line. -/
theorem regions_apart (l : Layout) (room : l.totalBytes < 2 ^ 64) :
    (∀ r r' : Region, r.IsIn l.geometry → r'.IsIn l.geometry → r ≠ r' →
      (l.region r).Apart (l.region r')) ∧
    (∀ r : Region, r.IsIn l.geometry → (l.region r).Within ⟨0, l.totalSize.toNat⟩) ∧
    (cacheLine ∣ l.stride.toNat → ∀ r : Region, r.IsIn l.geometry → r.IsAligned →
      cacheLine ∣ (l.start r).toNat) := by
  refine ⟨fun r r' h h' different => ?_, fun r h => ?_, fun whole r h aligned => ?_⟩
  · rw [region_eq_place room h, region_eq_place room h']
    exact place_apart h h' different
  · rw [region_eq_place room h, toNat_totalSize room]
    exact place_within h
  · have start := congrArg Stretch.start (region_eq_place room h)
    simp only [region] at start
    rw [start]
    exact dvd_place_start whole aligned

/-- Three queues for four consumers: the last latch of a block lies apart from the next block's
first latch owner and within the segment, and it starts with a cache line. -/
theorem regions_apart_three_queues :
    let l : Layout := ⟨⟨3, 4, 4000⟩, 128⟩
    let latch : Region := .block 1 (.cell (.consumerLatch 3))
    let owner : Region := .block 2 (.latchOwner 0)
    l.totalBytes < 2 ^ 64 ∧ latch.IsIn l.geometry ∧ owner.IsIn l.geometry ∧ latch ≠ owner ∧
      cacheLine ∣ l.stride.toNat ∧ latch.IsAligned ∧
      (l.region latch).Apart (l.region owner) ∧
      (l.region latch).Within ⟨0, l.totalSize.toNat⟩ ∧ cacheLine ∣ (l.start latch).toNat := by
  intro l latch owner
  have room : l.totalBytes < 2 ^ 64 := by decide
  have inside : latch.IsIn l.geometry := by decide
  have next : owner.IsIn l.geometry := by decide
  have different : latch ≠ owner := by decide
  have whole : cacheLine ∣ l.stride.toNat := by decide
  obtain ⟨apart, within, aligned⟩ := regions_apart l room
  exact ⟨room, inside, next, different, whole, trivial, apart latch owner inside next different,
    within latch inside, aligned whole latch inside trivial⟩

end Layout

end RecordExchange
