import Mathlib.Data.Fintype.EquivFin
import Mathlib.Logic.Function.Basic
import RecordExchange.Proofs.Queue.Lanes
import RecordExchange.Proofs.Text.Utf8
import RecordExchange.Registry

set_option autoImplicit false

/-!
Which queues there are: what the two tables of a segment say apart from producers, slots and
latches.

The tables are searched, assigned and freed independently of each other. They agree as long as no
two queues have one name, each queue's block points back at it, and no other block points anywhere;
from that alone it follows that a place for an entry comes with a sync block for it.
-/

namespace RecordExchange

/-- A name is read back from its key. -/
theorem keyName_nameKey {name : String} (valid : isQueueName name = true) :
    (nameKey name).takeWhile (· != 0) = Text.toUtf8 name ∧ keyName (nameKey name) = name := by
  simp only [isQueueName, Bool.and_eq_true, decide_eq_true_iff, Bool.not_eq_true',
    List.contains_eq_mem, decide_eq_false_iff_not] at valid
  have short : (Text.toUtf8 name).length < keySize := by
    have bound := valid.1
    rw [← Text.toUtf8_length, maxNameLength] at bound
    exact Nat.lt_of_le_of_lt bound (by decide)
  have bytes : (nameKey name).takeWhile (· != 0) = Text.toUtf8 name := by
    have clean : ∀ b ∈ Text.toUtf8 name, (b != 0) = true := by
      intro b member
      rw [bne_iff_ne]
      intro zero
      exact Text.zero_not_mem_toUtf8 valid.2 (zero ▸ member)
    have ends : (List.replicate (keySize - (Text.toUtf8 name).length) (0 : UInt8)).takeWhile
        (· != 0) = [] := by
      obtain ⟨more, some⟩ := Nat.exists_eq_add_of_lt short
      rw [show keySize - (Text.toUtf8 name).length = more + 1 by omega, List.replicate_succ]
      rfl
    rw [nameKey, List.takeWhile_append_of_pos clean, ends, List.append_nil]
  exact ⟨bytes, by rw [keyName, bytes, Text.ofUtf8Lossy_toUtf8]⟩

/-- What an entry says of the queue it holds, apart from its producer and its slots. -/
structure Title where
  key : List UInt8
  live : Bool
  block : Nat
  references : UInt32
  deriving DecidableEq

def Entry.title (e : Entry) : Title := ⟨e.key, e.live, e.block, e.references⟩

namespace Title

def name (t : Title) : String := keyName t.key

def isNamed (t : Title) (name : String) : Bool := t.live && t.name == name

theorem isNamed_iff {t : Title} {name : String} :
    t.isNamed name = true ↔ t.live = true ∧ t.name = name := by
  rw [isNamed, Bool.and_eq_true, beq_iff_eq]

end Title

/-- The titles of the entries, and what each sync block says which entry it serves. -/
structure Register where
  title : Nat → Title
  serves : Nat → Option Nat

def Segment.register (s : Segment) : Register :=
  ⟨fun i => (s.entries.getD i default).title, fun b => (s.blocks.getD b default).queue⟩

namespace Register

variable {r : Register} {i j b : Nat} {name : String}

def setReferences (r : Register) (i : Nat) (n : UInt32) : Register :=
  { r with title := Function.update r.title i { r.title i with references := n } }

/-- Place `i` is free again, and so is its block. -/
def remove (r : Register) (i : Nat) : Register where
  title := Function.update r.title i { r.title i with live := false }
  serves := Function.update r.serves (r.title i).block none

/-- A new queue in place `i`, served by block `b`. -/
def layOut (r : Register) (i b : Nat) (name : String) : Register where
  title := Function.update r.title i ⟨nameKey name, true, b, 1⟩
  serves := Function.update r.serves b (some i)

/-- Entry `i` and its block agree that there is a queue `name` to remove. -/
def canRemove (r : Register) (i : Nat) (name : String) : Bool :=
  (r.title i).isNamed name && r.serves (r.title i).block == some i

/-- One reference less in place `i`, and no queue there after the last one. The flag says that
entry and block were at odds, so that the queue stays. -/
def drop (r : Register) (i : Nat) (name : String) : Register × Bool :=
  let n := (r.title i).references - 1
  if n = 0 then
    if r.canRemove i name then ((r.setReferences i n).remove i, false)
    else (r.setReferences i n, true)
  else (r.setReferences i n, false)

/-- The tables agree on which queues there are. -/
structure Consistent (r : Register) : Prop where
  distinct : ∀ i j, (r.title i).live = true → (r.title j).live = true →
    (r.title i).name = (r.title j).name → i = j
  served : ∀ i, (r.title i).live = true → r.serves (r.title i).block = some i
  serving : ∀ b i, r.serves b = some i → (r.title i).live = true ∧ (r.title i).block = b

/-- There are no queues outside the first `n` places, and no blocks outside the first `n`. -/
structure Within (r : Register) (n : Nat) : Prop where
  entries : ∀ i, (r.title i).live = true → i < n
  blocks : ∀ b i, r.serves b = some i → b < n

section Titles

@[simp] theorem setReferences_title_self (r : Register) (i : Nat) (n : UInt32) :
    (r.setReferences i n).title i = { r.title i with references := n } :=
  Function.update_self ..

theorem setReferences_title_other (r : Register) (other : j ≠ i) (n : UInt32) :
    (r.setReferences i n).title j = r.title j := Function.update_of_ne other ..

@[simp] theorem setReferences_serves (r : Register) (i : Nat) (n : UInt32) :
    (r.setReferences i n).serves = r.serves := rfl

@[simp] theorem remove_title_self (r : Register) (i : Nat) :
    (r.remove i).title i = { r.title i with live := false } := Function.update_self ..

theorem remove_title_other (r : Register) (other : j ≠ i) :
    (r.remove i).title j = r.title j := Function.update_of_ne other ..

@[simp] theorem layOut_title_self (r : Register) (i b : Nat) (name : String) :
    (r.layOut i b name).title i = ⟨nameKey name, true, b, 1⟩ := Function.update_self ..

theorem layOut_title_other (r : Register) (other : j ≠ i) (b : Nat) (name : String) :
    (r.layOut i b name).title j = r.title j := Function.update_of_ne other ..

/-- References do not matter for who has a queue, where, and under which name. -/
theorem setReferences_title (r : Register) (i : Nat) (n : UInt32) (j : Nat) :
    ((r.setReferences i n).title j).live = (r.title j).live ∧
      ((r.setReferences i n).title j).key = (r.title j).key ∧
      ((r.setReferences i n).title j).block = (r.title j).block := by
  by_cases same : j = i
  · subst same
    rw [setReferences_title_self]
    exact ⟨rfl, rfl, rfl⟩
  · rw [setReferences_title_other r same]
    exact ⟨rfl, rfl, rfl⟩

end Titles

/-- A drop takes the reference, and removes the queue exactly with the last one. -/
theorem drop_cases (r : Register) (i : Nat) (name : String) :
    (r.title i).references - 1 ≠ 0 ∧
        r.drop i name = (r.setReferences i ((r.title i).references - 1), false) ∨
      (r.title i).references - 1 = 0 ∧ r.canRemove i name = true ∧
        r.drop i name = ((r.setReferences i 0).remove i, false) ∨
      (r.title i).references - 1 = 0 ∧ r.canRemove i name = false ∧
        r.drop i name = (r.setReferences i 0, true) := by
  by_cases last : (r.title i).references - 1 = 0
  · right
    cases can : r.canRemove i name with
    | true => exact .inl ⟨last, rfl, by simp only [drop, last, can, ↓reduceIte]⟩
    | false =>
      exact .inr ⟨last, rfl, by simp only [drop, last, can, ↓reduceIte, Bool.false_eq_true]⟩
  · exact .inl ⟨last, by simp only [drop, last, ↓reduceIte]⟩

/-- Giving up one of the references of a queue that is there lowers its count by one. The queue is
gone, and its block free, exactly if that was the last one; no other place changes. -/
theorem drop_held (named : (r.title i).isNamed name = true)
    (served : r.serves (r.title i).block = some i) (some : 1 ≤ (r.title i).references.toNat) :
    ((r.drop i name).1.title i).references.toNat + 1 = (r.title i).references.toNat ∧
      (((r.drop i name).1.title i).live = false ↔
        ((r.drop i name).1.title i).references.toNat = 0) ∧
      ((r.drop i name).1.serves (r.title i).block = none ↔
        ((r.drop i name).1.title i).references.toNat = 0) ∧
      (∀ j, j ≠ i → (r.drop i name).1.title j = r.title j) ∧
      ∀ b, b ≠ (r.title i).block → (r.drop i name).1.serves b = r.serves b := by
  have one : (1 : UInt32) ≤ (r.title i).references := by
    rw [UInt32.le_iff_toNat_le]
    exact some
  have less : (r.title i).references.toNat = ((r.title i).references - 1).toNat + 1 := by
    rw [UInt32.toNat_sub_of_le _ _ one]
    change _ = (r.title i).references.toNat - 1 + 1
    omega
  have live := (Title.isNamed_iff.mp named).1
  have removable : r.canRemove i name = true := by
    rw [canRemove, named, served, Bool.true_and]
    exact beq_self_eq_true _
  rcases r.drop_cases i name with ⟨more, dropped⟩ | ⟨last, -, dropped⟩ | ⟨-, cannot, -⟩
  · have positive : ((r.title i).references - 1).toNat ≠ 0 :=
      fun zero => more (UInt32.toNat_inj.mp zero)
    rw [dropped, setReferences_title_self, setReferences_serves, served, live]
    refine ⟨less.symm, ?_, ?_, fun j other => setReferences_title_other r other _, fun _ _ => rfl⟩
    · simp only [positive, Bool.true_eq_false]
    · simp only [positive, reduceCtorEq]
  · have zero : ((r.title i).references - 1).toNat = 0 := by
      rw [last]
      rfl
    rw [dropped, remove_title_self, setReferences_title_self]
    refine ⟨?_, ?_, ?_, ?_, ?_⟩
    · change 0 + 1 = _
      omega
    · exact ⟨fun _ => rfl, fun _ => rfl⟩
    · refine ⟨fun _ => rfl, fun _ => ?_⟩
      unfold remove
      rw [setReferences_title_self, setReferences_serves]
      exact Function.update_self ..
    · intro j other
      rw [remove_title_other _ other, setReferences_title_other r other]
    · intro b other
      unfold remove
      rw [setReferences_title_self, setReferences_serves]
      exact Function.update_of_ne other ..
  · rw [removable] at cannot
    cases cannot

theorem drop_title (r : Register) (i : Nat) (name : String) (j : Nat) :
    (((r.drop i name).1.title j).live = true → (r.title j).live = true) ∧
      ((r.drop i name).1.title j).key = (r.title j).key ∧
      ((r.drop i name).1.title j).block = (r.title j).block := by
  have counted (n : UInt32) := setReferences_title r i n j
  rcases r.drop_cases i name with ⟨-, dropped⟩ | ⟨-, -, dropped⟩ | ⟨-, -, dropped⟩
  · rw [dropped]
    obtain ⟨live, key, block⟩ := counted ((r.title i).references - 1)
    exact ⟨fun after => live ▸ after, key, block⟩
  · rw [dropped]
    by_cases same : j = i
    · subst same
      rw [remove_title_self, setReferences_title_self]
      exact ⟨nofun, rfl, rfl⟩
    · rw [remove_title_other _ same, setReferences_title_other r same]
      exact ⟨id, rfl, rfl⟩
  · rw [dropped]
    obtain ⟨live, key, block⟩ := counted 0
    exact ⟨fun after => live ▸ after, key, block⟩

section Consistent

theorem Consistent.setReferences (c : r.Consistent) (i : Nat) (n : UInt32) :
    (r.setReferences i n).Consistent := by
  have live (j) := (setReferences_title r i n j).1
  have key (j) := (setReferences_title r i n j).2.1
  have block (j) := (setReferences_title r i n j).2.2
  refine ⟨?_, ?_, ?_⟩
  · intro j k liveJ liveK same
    rw [live] at liveJ liveK
    rw [Title.name, Title.name, key, key] at same
    exact c.distinct j k liveJ liveK same
  · intro j liveJ
    rw [live] at liveJ
    rw [block]
    exact c.served j liveJ
  · intro b j serves
    rw [live, block]
    exact c.serving b j serves

/-- A queue that goes takes nothing from the others. -/
theorem Consistent.remove (c : r.Consistent) (live : (r.title i).live = true) :
    (r.remove i).Consistent := by
  have gone {j} (liveJ : ((r.remove i).title j).live = true) :
      j ≠ i ∧ (r.title j).live = true ∧ (r.remove i).title j = r.title j := by
    by_cases same : j = i
    · rw [same, remove_title_self] at liveJ
      cases liveJ
    · have kept := remove_title_other r same
      rw [kept] at liveJ
      exact ⟨same, liveJ, kept⟩
  refine ⟨?_, ?_, ?_⟩
  · intro j k liveJ liveK same
    obtain ⟨-, beforeJ, keptJ⟩ := gone liveJ
    obtain ⟨-, beforeK, keptK⟩ := gone liveK
    rw [keptJ, keptK] at same
    exact c.distinct j k beforeJ beforeK same
  · intro j liveJ
    obtain ⟨other, before, kept⟩ := gone liveJ
    have served := c.served j before
    have apart : (r.title j).block ≠ (r.title i).block := by
      intro same
      rw [same, c.served i live] at served
      exact other (Option.some_inj.mp served).symm
    rw [kept]
    exact (Function.update_of_ne apart ..).trans served
  · intro b j serves
    by_cases own : b = (r.title i).block
    · rw [own] at serves
      change Function.update r.serves (r.title i).block none (r.title i).block = _ at serves
      rw [Function.update_self] at serves
      cases serves
    · have before : r.serves b = some j := (Function.update_of_ne own ..).symm.trans serves
      obtain ⟨liveJ, block⟩ := c.serving b j before
      have other : j ≠ i := fun same => own (by rw [← block, same])
      rw [remove_title_other r other]
      exact ⟨liveJ, block⟩

/-- A queue that is laid out in a free place, on a free block and under a free name fits in. -/
theorem Consistent.layOut (c : r.Consistent) (valid : isQueueName name = true)
    (place : (r.title i).live = false) (pool : r.serves b = none)
    (absent : ∀ j, (r.title j).isNamed name = false) : (r.layOut i b name).Consistent := by
  have name_self : ((r.layOut i b name).title i).name = name := by
    rw [layOut_title_self]
    exact (keyName_nameKey valid).2
  have taken {j} (liveJ : ((r.layOut i b name).title j).live = true) (other : j ≠ i) :
      (r.title j).live = true ∧ (r.title j).name ≠ name := by
    rw [layOut_title_other r other] at liveJ
    refine ⟨liveJ, fun same => ?_⟩
    have named := Title.isNamed_iff.mpr ⟨liveJ, same⟩
    rw [absent] at named
    cases named
  refine ⟨?_, ?_, ?_⟩
  · intro j k liveJ liveK same
    by_cases atJ : j = i
    · by_cases atK : k = i
      · rw [atJ, atK]
      · rw [atJ, name_self, layOut_title_other r atK] at same
        exact absurd same.symm (taken liveK atK).2
    · by_cases atK : k = i
      · rw [atK, name_self, layOut_title_other r atJ] at same
        exact absurd same (taken liveJ atJ).2
      · have beforeJ := (taken liveJ atJ).1
        have beforeK := (taken liveK atK).1
        rw [layOut_title_other r atJ, layOut_title_other r atK] at same
        exact c.distinct j k beforeJ beforeK same
  · intro j liveJ
    by_cases same : j = i
    · rw [same, layOut_title_self]
      exact Function.update_self ..
    · have served := c.served j (taken liveJ same).1
      have apart : (r.title j).block ≠ b := by
        intro equal
        rw [equal, pool] at served
        cases served
      rw [layOut_title_other r same]
      exact (Function.update_of_ne apart ..).trans served
  · intro d j serves
    by_cases own : d = b
    · rw [own] at serves
      change Function.update r.serves b (some i) b = some j at serves
      rw [Function.update_self] at serves
      cases serves
      rw [layOut_title_self]
      exact ⟨rfl, own.symm⟩
    · have before : r.serves d = some j := (Function.update_of_ne own ..).symm.trans serves
      obtain ⟨liveJ, block⟩ := c.serving d j before
      have other : j ≠ i := by
        intro same
        rw [same, place] at liveJ
        cases liveJ
      rw [layOut_title_other r other]
      exact ⟨liveJ, block⟩

theorem canRemove_iff : r.canRemove i name = true ↔
    (r.title i).isNamed name = true ∧ r.serves (r.title i).block = some i := by
  rw [canRemove, Bool.and_eq_true, beq_iff_eq]

theorem Consistent.drop (c : r.Consistent) (i : Nat) (name : String) :
    (r.drop i name).1.Consistent := by
  rcases r.drop_cases i name with ⟨-, dropped⟩ | ⟨-, can, dropped⟩ | ⟨-, -, dropped⟩
  · rw [dropped]
    exact c.setReferences i _
  · rw [dropped]
    refine (c.setReferences i 0).remove ?_
    rw [(setReferences_title r i 0 i).1]
    exact (Title.isNamed_iff.mp (canRemove_iff.mp can).1).1
  · rw [dropped]
    exact c.setReferences i _

/-- If every block of `n` serves a queue, then every place of `n` has one: no more than `n` queues
share out the blocks, one each. -/
theorem Consistent.full {n : Nat} (c : r.Consistent) (within : r.Within n)
    (busy : ∀ b, b < n → r.serves b ≠ none) (i : Nat) (inside : i < n) :
    (r.title i).live = true := by
  have owner (b : Fin n) : ∃ i : Fin n, r.serves b = some i.val := by
    obtain ⟨i, serves⟩ := Option.ne_none_iff_exists'.mp (busy b b.isLt)
    exact ⟨⟨i, within.entries i (c.serving b i serves).1⟩, serves⟩
  choose f serves using owner
  have injective : Function.Injective f := by
    intro b d same
    have first := (c.serving b (f b) (serves b)).2
    have second := (c.serving d (f d) (serves d)).2
    rw [same, second] at first
    exact Fin.ext first.symm
  obtain ⟨b, owns⟩ := Finite.injective_iff_surjective.mp injective ⟨i, inside⟩
  have live := (c.serving b (f b) (serves b)).1
  rw [owns] at live
  exact live

end Consistent

end Register

end RecordExchange
