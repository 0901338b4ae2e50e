import Mathlib.Tactic.ByContra
import RecordExchange.Host.Basic
import RecordExchange.Proofs.Segment.Layout

set_option autoImplicit false

/-!
# What a process may attach to

Attaching checks one bound: the total that the header's numbers make against the bytes mapped. The
numbers themselves are not checked before the total is computed from them. While that stays within
64-bit words, everything the header claims lies in the mapping of a process that attached; where it
does not, the process stops dead instead of refusing the segment (`attach_fits`). One overwritten
queue size suffices for that (`attach_panics_overwritten`), and were the sums to wrap around, the
segment would pass.
-/

namespace RecordExchange

/-- All that a layout promises lies within so many bytes: the registry lock's cell, the sync blocks
and the bytes of every queue. -/
structure Layout.FitsIn (l : Layout) (size : Nat) : Prop where
  lock : l.lockPlace.stop ≤ size
  block : ∀ b < l.geometry.maxQueues, (l.blockPlace b).stop ≤ size
  entry : ∀ i < l.geometry.maxQueues, (l.entryPlace i).start + l.geometry.queueSize ≤ size

namespace Layout

variable {l : Layout} {size : Nat}

theorem fitsIn_of_total (room : l.totalBytes ≤ size) : l.FitsIn size where
  lock := by
    have lock := (place_within (l := l) (r := .registryLock) trivial).2
    simp only [place, Stretch.stop] at lock ⊢
    omega
  block b h := by
    have pool := (blockPlace_within h).2
    have rest := zone_stop_le_totalBytes (l := l) (.block b .header)
    exact Nat.le_trans pool (Nat.le_trans rest room)
  entry i h := by
    have inside := (place_within (l := l) (r := .entry i) h).2
    simp only [place, Stretch.stop] at inside
    omega

theorem entryBytes_le : l.entryBytes ≤ l.geometry.queueSize + 2 * cacheLine := by
  rcases Nat.le_total l.geometry.queueSize entryHeaderSize with short | long
  · have header : roundUp entryHeaderSize = 2 * cacheLine := by decide
    rw [entryBytes, Nat.max_eq_right short, header]
    omega
  · have rounded := roundUp_lt l.geometry.queueSize
    rw [entryBytes, Nat.max_eq_left long]
    omega

theorem totalBytes_le_of_fitsIn (fits : l.FitsIn size) : l.totalBytes ≤ size + 2 * cacheLine := by
  have lock := fits.lock
  have entry := entryBytes_le (l := l)
  cases queues : l.geometry.maxQueues with
  | zero =>
    simp only [totalBytes, entriesStart, queues]
    omega
  | succ last =>
    have fit := fits.entry last (by omega)
    simp only [entryPlace, Stretch.nth, totalBytes] at fit ⊢
    rw [queues, Nat.add_mul]
    omega

end Layout

/-! ### The total in checked steps -/

theorem Word.checked_eq_some_iff {n m : Nat} : Word.checked n = some m ↔ n < 2 ^ 64 ∧ n = m := by
  change (if n < 2 ^ 64 then some n else none) = some m ↔ _
  split
  · rename_i fits
    rw [Option.some.injEq]
    exact (and_iff_right fits).symm
  · rename_i large
    exact iff_of_false nofun fun both => large both.1

/-- The exact sizes that are computed on the way to the total are 64-bit words, and so is what they
are rounded up from. -/
structure Layout.InWords (l : Layout) : Prop where
  owners : syncHeaderSize + l.geometry.maxConsumers * ownerSize + cacheLine < 2 ^ 64
  block : l.blockBytes < 2 ^ 64
  entry : max l.geometry.queueSize entryHeaderSize + cacheLine < 2 ^ 64
  total : l.totalBytes < 2 ^ 64

theorem alignUp?_eq_some_iff {value n : Nat} :
    alignUp? value cacheLine = some n ↔ value + cacheLine < 2 ^ 64 ∧ roundUp value = n := by
  have same : (value + cacheLine - 1) / cacheLine * cacheLine = roundUp value := rfl
  have rounded := roundUp_lt value
  simp only [alignUp?, Option.bind_eq_bind, Option.bind_eq_some_iff, Word.checked_eq_some_iff]
  constructor
  · rintro ⟨_, ⟨raised, rfl⟩, -, made⟩
    exact ⟨raised, same.symm.trans made⟩
  · rintro ⟨raised, made⟩
    exact ⟨_, ⟨raised, rfl⟩, by omega, same.trans made⟩

namespace Layout

variable {l : Layout} {n : Nat}

/-- The checked total is the exact one, and it is there exactly if no step leaves the words. -/
theorem total?_eq_some_iff : l.total? = some n ↔ l.InWords ∧ l.totalBytes = n := by
  have lock : roundUp segmentHeaderSize = cacheLine := rfl
  simp only [total?, Option.bind_eq_bind, Option.bind_eq_some_iff, Word.checked_eq_some_iff,
    alignUp?_eq_some_iff]
  constructor
  · rintro ⟨_, ⟨-, rfl⟩, _, ⟨-, rfl⟩, _, ⟨-, rfl⟩, _, ⟨-, rfl⟩, _, ⟨owners, rfl⟩, _, ⟨-, rfl⟩, _,
      ⟨-, rfl⟩, _, ⟨-, rfl⟩, _, ⟨block, rfl⟩, _, ⟨-, rfl⟩, _, ⟨-, rfl⟩, _, ⟨entry, rfl⟩, _,
      ⟨-, rfl⟩, total, made⟩
    exact ⟨⟨owners, block, entry, total⟩, made⟩
  · rintro ⟨words, made⟩
    -- no step goes beyond what the three sizes or the total come to in the end
    have owners : 8 + l.geometry.maxConsumers * 4 + 64 < 2 ^ 64 := words.owners
    have block : l.headerBytes + (2 + 2 * l.geometry.maxConsumers) * l.stride.toNat < 2 ^ 64 :=
      words.block
    have total : cacheLine + l.stride.toNat + l.geometry.maxQueues * l.blockBytes +
        l.geometry.maxQueues * l.entryBytes < 2 ^ 64 := words.total
    have pool : cacheLine + l.stride.toNat < 2 ^ 64 := by omega
    have owned : l.geometry.maxConsumers * 4 < 2 ^ 64 := by omega
    have headed : 8 + l.geometry.maxConsumers * 4 < 2 ^ 64 := by omega
    have pairs : 2 * l.geometry.maxConsumers < 2 ^ 64 := by omega
    have cells : 2 + 2 * l.geometry.maxConsumers < 2 ^ 64 := by omega
    have strides : (2 + 2 * l.geometry.maxConsumers) * l.stride.toNat < 2 ^ 64 := by omega
    have blocks : l.geometry.maxQueues * l.blockBytes < 2 ^ 64 := by omega
    have entries : cacheLine + l.stride.toNat + l.geometry.maxQueues * l.blockBytes < 2 ^ 64 := by
      omega
    have space : l.geometry.maxQueues * l.entryBytes < 2 ^ 64 := by omega
    exact ⟨_, ⟨by decide, rfl⟩, _, ⟨pool, rfl⟩, _, ⟨owned, rfl⟩, _, ⟨headed, rfl⟩, _,
      ⟨words.owners, rfl⟩, _, ⟨pairs, rfl⟩, _, ⟨cells, rfl⟩, _, ⟨strides, rfl⟩, _, ⟨block, rfl⟩, _,
      ⟨blocks, rfl⟩, _, ⟨entries, rfl⟩, _, ⟨words.entry, rfl⟩, _, ⟨space, rfl⟩, words.total, made⟩

theorem InWords.total?_eq (words : l.InWords) : l.total? = some l.totalBytes :=
  total?_eq_some_iff.mpr ⟨words, rfl⟩

theorem total?_eq_none_iff : l.total? = none ↔ ¬ l.InWords := by
  constructor
  · intro none words
    exact nomatch none.symm.trans words.total?_eq
  · intro wide
    refine Option.eq_none_iff_forall_ne_some.mpr fun n some => ?_
    exact wide (total?_eq_some_iff.mp some).1

end Layout

namespace Host

/-- Once the link leads to a segment, attaching depends on its header and its size only. -/
theorem attach_opened {h : Host} {c : Config} {id : Nat} (opened : h.openLink c.linkPath = .ok id) :
    let s := h.segments.getD id default
    h.attach c =
      if s.header.isMarked s.size then
        match s.header.layout.total? with
        | none => .error .panicked
        | some total =>
          if total ≤ s.size then .ok ⟨id, c, s.header.geometry, s.header.creator, false, false⟩
          else .error (.badSegment c.linkPath)
      else .error (.badSegment c.linkPath) := by
  rw [attach, opened]
  rfl

/-- A process whose attaching is not refused found the right magic number. If the sizes that the
header makes are 64-bit words, it has attached, and all that the header claims lies in the mapping,
every region where its offset puts it. If they are not, it stopped dead at that; and the total may
then be more than any mapping has. -/
theorem attach_fits (h : Host) (c : Config) (id : Nat) (opened : h.openLink c.linkPath = .ok id)
    (accepted : h.attach c ≠ .error (.badSegment c.linkPath)) :
    let s := h.segments.getD id default
    let l := s.header.layout
    s.header.magic = segmentMagic ∧
      (l.InWords →
        h.attach c = .ok ⟨id, c, s.header.geometry, s.header.creator, false, false⟩ ∧
          l.FitsIn s.size ∧ ∀ r : Region, r.IsIn l.geometry → (l.region r).Within ⟨0, s.size⟩) ∧
      (¬ l.InWords → h.attach c = .error .panicked) ∧
      (2 ^ 64 ≤ l.totalBytes → s.size + 2 * cacheLine < 2 ^ 64 → ¬ l.FitsIn s.size) := by
  have answer := attach_opened opened
  generalize h.segments.getD id default = s at answer ⊢
  dsimp only at answer ⊢
  have marked : s.header.isMarked s.size = true := by
    by_contra unmarked
    exact accepted (answer.trans (if_neg unmarked))
  have magic := marked
  simp only [SegmentHeader.isMarked, Bool.and_eq_true, beq_iff_eq] at magic
  replace answer := answer.trans (if_pos marked)
  refine ⟨magic.2, fun words => ?_, fun wide => ?_, fun wraps small fits => ?_⟩
  · have sizes := words.total?_eq
    simp only [sizes] at answer
    have total : s.header.layout.totalBytes ≤ s.size := by
      by_contra more
      exact accepted (answer.trans (if_neg more))
    refine ⟨answer.trans (if_pos total), Layout.fitsIn_of_total total, fun r inside => ?_⟩
    rw [Layout.region_eq_place words.total inside]
    refine (Layout.place_within inside).trans ⟨Nat.le_refl _, ?_⟩
    simpa only [Stretch.stop, Nat.zero_add] using total
  · have sizes := Layout.total?_eq_none_iff.mpr wide
    simp only [sizes] at answer
    exact answer
  · have least := Layout.totalBytes_le_of_fitsIn fits
    omega

def fourQueues : Config :=
  { Config.default with
      dataDir := "", segmentName := "s", maxQueues := 4, queueSize := 1024, maxConsumers := 4 }

/-- A machine with one segment of four queues, in whose header stands another queue size. -/
def overwritten (queueSize : Nat) : Host :=
  let made := Segment.create fourQueues 1
  { alive := [1]
    segments := #[{ made with header := { made.header with queueSize } }]
    files := ⟨[], [(["s"], .segment 0)]⟩ }

theorem overwritten_openLink (queueSize : Nat) :
    (overwritten queueSize).openLink fourQueues.linkPath = .ok 0 := by
  have names : FileTree.names "s" = ["s"] := by
    rw [FileTree.names, String.splitOn, String.splitOnAux, if_neg (by decide), if_neg (by decide),
      if_neg (by decide +kernel), String.splitOnAux, if_pos (by decide +kernel)]
    decide +kernel
  have zero : "s".contains '\x00' = false := by
    simp
  have slash : "s".endsWith "/" = false := by decide +kernel
  have link : fourQueues.linkPath = "s" := by decide +kernel
  simp only [openLink, FileTree.lookUp, FileTree.locate, link, names, zero, slash]
  rfl

/-- The header as its creator wrote it: all that it claims is in the mapping. -/
theorem attach_fits_fourQueues :
    (overwritten 1024).openLink fourQueues.linkPath = .ok 0 ∧
      (overwritten 1024).attach fourQueues ≠ .error (.badSegment fourQueues.linkPath) ∧
      (Segment.create fourQueues 1).header.layout.FitsIn 12288 := by
  have opened := overwritten_openLink 1024
  have words : (Segment.create fourQueues 1).header.layout.InWords :=
    ⟨by decide, by decide, by decide, by decide⟩
  have accepted : (overwritten 1024).attach fourQueues ≠
      .error (.badSegment fourQueues.linkPath) := by
    have attached : (overwritten 1024).attach fourQueues = .ok _ := attach_opened opened
    rw [attached]
    nofun
  have fits := attach_fits (overwritten 1024) fourQueues 0 opened accepted
  exact ⟨opened, accepted, (fits.2.1 words).2.1⟩

/-- With 2 ^ 62 in place of the queue size the sizes of the four entries add up to 2 ^ 64. No entry
of the mapping holds such a queue; but the segment is not refused: the sum leaves the 64-bit words.
Were it to wrap around, it would be nothing, and the mapping would be large enough. -/
theorem attach_panics_overwritten :
    let s := (overwritten (2 ^ 62)).segments.getD 0 default
    (overwritten (2 ^ 62)).openLink fourQueues.linkPath = .ok 0 ∧
      (overwritten (2 ^ 62)).attach fourQueues = .error .panicked ∧
      s.header.magic = segmentMagic ∧ s.size = 12288 ∧ ¬ s.header.layout.FitsIn s.size ∧
      s.header.layout.totalSize.toNat ≤ s.size := by
  have opened := overwritten_openLink (2 ^ 62)
  refine ⟨opened, ?_, by decide, by decide, fun fits => ?_, by decide⟩
  · rw [attach_opened opened]
    rfl
  · have entry := fits.entry 0 (by decide)
    revert entry
    decide

end Host

end RecordExchange
