import RecordExchange.Proofs.Commons.Registry

set_option autoImplicit false

/-!
References and what they are held for.

A reference belongs to a claim that was not given up or to a producer that has not unbound, though
no entry says to which. Sessions that keep to their own claims therefore keep the books: a queue is
there exactly while something is outstanding, its count is that number, and nobody who still holds
on to a queue finds another one in its place.
-/

namespace RecordExchange

namespace Ledger

variable {l after : Ledger} {i : Nat} {name : String} {h : Holding}

/-- Claims on the queue `name` that were not given up, and its producers that have not unbound. -/
def outstanding (l : Ledger) (name : String) : Nat :=
  l.claims.countP (fun claim => claim.2 == name) +
    l.producers.countP (fun h => h.isOpen && h.handle.name == name)

/-- The place a party was bound in still holds that very queue. -/
structure Holds (l : Ledger) (h : Holding) : Prop where
  named : (l.register.title h.handle.entry).isNamed h.handle.name = true
  block : (l.register.title h.handle.entry).block = h.handle.block
  turn : (l.laidOut h.handle.entry).length = h.turn

/-- The books are right: nobody stopped at tables at odds, every queue has as many references as
are outstanding, and at least one; what something is outstanding for is there; and whoever has not
let go holds on to its queue, a consumer under a claim of its session. -/
structure Balanced (l : Ledger) : Prop where
  sane : l.corrupted = false
  counted : ∀ i, (l.register.title i).live = true →
    (l.register.title i).references.toNat = l.outstanding (l.register.title i).name
  claimed : ∀ i, (l.register.title i).live = true → 0 < l.outstanding (l.register.title i).name
  present : ∀ name, 0 < l.outstanding name → ∃ i, (l.register.title i).isNamed name = true
  producers : ∀ h ∈ l.producers, h.isOpen = true → l.Holds h
  consumers : ∀ h ∈ l.consumers, h.isOpen = true →
    l.Holds h ∧ (h.session, h.handle.name) ∈ l.claims

theorem outstanding_of_claim {claim : Session × String} (claimed : claim ∈ l.claims) :
    0 < l.outstanding claim.2 := by
  refine Nat.add_pos_left (List.countP_pos_iff.mpr ⟨claim, claimed, ?_⟩) _
  exact beq_self_eq_true claim.2

theorem outstanding_of_producer (bound : h ∈ l.producers) (opened : h.isOpen = true) :
    0 < l.outstanding h.handle.name := by
  refine Nat.add_pos_right _ (List.countP_pos_iff.mpr ⟨h, bound, ?_⟩)
  rw [opened, Bool.true_and]
  exact beq_self_eq_true _

theorem outstanding_withRegister (l : Ledger) (r : Register) (name : String) :
    { l with register := r }.outstanding name = l.outstanding name := rfl

theorem outstanding_claim (l : Ledger) (session : Session) (name other : String) :
    { l with claims := (session, name) :: l.claims }.outstanding other =
      l.outstanding other + if other = name then 1 else 0 := by
  simp only [outstanding, List.countP_cons, beq_iff_eq, eq_comm (a := name)]
  omega

theorem outstanding_erase {session : Session} (claimed : (session, name) ∈ l.claims)
    (other : String) :
    { l with claims := l.claims.erase (session, name) }.outstanding other +
      (if other = name then 1 else 0) = l.outstanding other := by
  have counted := (List.perm_cons_erase claimed).countP_eq fun claim => claim.2 == other
  simp only [List.countP_cons, beq_iff_eq, eq_comm (a := name)] at counted
  simp only [outstanding, counted]
  omega

theorem outstanding_bind (l : Ledger) (h : Holding) (opened : h.isOpen = true) (other : String) :
    { l with producers := l.producers ++ [h] }.outstanding other =
      l.outstanding other + if other = h.handle.name then 1 else 0 := by
  simp only [outstanding, List.countP_append, List.countP_singleton, opened, Bool.true_and,
    beq_iff_eq, eq_comm (a := h.handle.name)]
  omega

theorem outstanding_settle {k : Nat} (here : l.producers[k]? = some h) (opened : h.isOpen = true)
    (other : String) :
    { l with producers := l.producers.set k h.close }.outstanding other +
      (if other = h.handle.name then 1 else 0) = l.outstanding other := by
  obtain ⟨inside, rfl⟩ := List.getElem?_eq_some_iff.mp here
  have some : (l.producers.countP fun p => p.isOpen && p.handle.name == other) ≥
      if other = l.producers[k].handle.name then 1 else 0 := by
    split
    · rename_i same
      refine List.one_le_countP_iff.mpr ⟨_, List.getElem_mem inside, ?_⟩
      rw [opened, same, Bool.true_and]
      exact beq_self_eq_true _
    · exact Nat.zero_le _
  simp only [outstanding, List.countP_set inside, opened, Bool.true_and, beq_iff_eq,
    eq_comm (a := l.producers[k].handle.name), Holding.close, Bool.false_and, Bool.false_eq_true,
    ↓reduceIte]
  omega

/-- A party holds on to its queue as long as its place keeps the title, apart from the count. -/
theorem Holds.move (holds : l.Holds h)
    (live : (after.register.title h.handle.entry).live = (l.register.title h.handle.entry).live)
    (key : (after.register.title h.handle.entry).key = (l.register.title h.handle.entry).key)
    (block : (after.register.title h.handle.entry).block = (l.register.title h.handle.entry).block)
    (laid : after.laidOut h.handle.entry = l.laidOut h.handle.entry) : after.Holds h := by
  refine ⟨?_, block.trans holds.block, ?_⟩
  · rw [Title.isNamed, Title.name, live, key]
    exact holds.named
  · rw [laid]
    exact holds.turn

theorem Holds.setReferences (holds : l.Holds h) (i : Nat) (n : UInt32) :
    { l with register := l.register.setReferences i n }.Holds h := by
  obtain ⟨live, key, block⟩ := Register.setReferences_title l.register i n h.handle.entry
  exact holds.move live key block rfl

theorem Holds.remove (holds : l.Holds h) (other : h.handle.entry ≠ i) :
    { l with register := (l.register.setReferences i 0).remove i }.Holds h := by
  have kept : ((l.register.setReferences i 0).remove i).title h.handle.entry =
      l.register.title h.handle.entry := by
    rw [Register.remove_title_other _ other, Register.setReferences_title_other _ other]
  exact holds.move (congrArg Title.live kept) (congrArg Title.key kept)
    (congrArg Title.block kept) rfl

section Exchange

/-! A reference is taken or given up in the place of the queue `name`, together with the claim or
the producer it is for: `next` is the ledger with the latter changed, and its register not yet. -/

variable (next : Ledger) (balanced : l.Balanced) (consistent : l.register.Consistent)
  (named : (l.register.title i).isNamed name = true) (register : next.register = l.register)
  (sane : next.corrupted = l.corrupted)
  (producers : ∀ h ∈ next.producers, h.isOpen = true → next.Holds h)
  (consumers : ∀ h ∈ next.consumers, h.isOpen = true →
    next.Holds h ∧ (h.session, h.handle.name) ∈ next.claims)
include balanced consistent named register sane producers consumers

/-- The queue stays if something is outstanding for it and its count says so. -/
theorem Balanced.recount {n : UInt32} (count : n.toNat = next.outstanding name)
    (some : 0 < next.outstanding name)
    (same : ∀ other, other ≠ name → next.outstanding other = l.outstanding other) :
    { next with register := next.register.setReferences i n }.Balanced := by
  obtain ⟨live, own⟩ := Title.isNamed_iff.mp named
  have apart {j} (liveJ : (l.register.title j).live = true) (other : j ≠ i) :
      (l.register.title j).name ≠ name := fun equal =>
    other (consistent.distinct j i liveJ live (equal.trans own.symm))
  have liveAfter (j) := (Register.setReferences_title l.register i n j).1
  have nameAfter (j) : ((l.register.setReferences i n).title j).name =
      (l.register.title j).name :=
    congrArg keyName (Register.setReferences_title l.register i n j).2.1
  refine ⟨sane.trans balanced.sane, ?_, ?_, ?_, ?_, ?_⟩
  · intro j liveJ
    rw [register, liveAfter] at liveJ
    rw [register, nameAfter, outstanding_withRegister]
    by_cases here : j = i
    · subst here
      rw [Register.setReferences_title_self, own]
      exact count
    · rw [Register.setReferences_title_other _ here, same _ (apart liveJ here)]
      exact balanced.counted j liveJ
  · intro j liveJ
    rw [register, liveAfter] at liveJ
    rw [register, nameAfter, outstanding_withRegister]
    by_cases here : j = i
    · rw [here, own]
      exact some
    · rw [same _ (apart liveJ here)]
      exact balanced.claimed j liveJ
  · intro other wanted
    rw [outstanding_withRegister] at wanted
    obtain ⟨j, found⟩ : ∃ j, (l.register.title j).isNamed other = true := by
      by_cases equal : other = name
      · exact ⟨i, equal ▸ named⟩
      · exact balanced.present other (same other equal ▸ wanted)
    refine ⟨j, ?_⟩
    rw [register, Title.isNamed, liveAfter, nameAfter]
    exact found
  · exact fun h bound opened => (producers h bound opened).setReferences ..
  · exact fun h bound opened => (consumers h bound opened).imp (·.setReferences ..) id

/-- The queue goes when nothing is outstanding for it any more: nobody holds on to it then. -/
theorem Balanced.remove (none : next.outstanding name = 0)
    (same : ∀ other, other ≠ name → next.outstanding other = l.outstanding other) :
    { next with register := (next.register.setReferences i 0).remove i }.Balanced := by
  obtain ⟨live, own⟩ := Title.isNamed_iff.mp named
  have elsewhere {j} (liveJ : (((l.register.setReferences i 0).remove i).title j).live = true) :
      (l.register.title j).live = true ∧ (l.register.title j).name ≠ name ∧
        ((l.register.setReferences i 0).remove i).title j = l.register.title j := by
    have other : j ≠ i := by
      intro here
      rw [here, Register.remove_title_self] at liveJ
      cases liveJ
    have kept : ((l.register.setReferences i 0).remove i).title j = l.register.title j := by
      rw [Register.remove_title_other _ other, Register.setReferences_title_other _ other]
    rw [kept] at liveJ
    exact ⟨liveJ, fun equal => other (consistent.distinct j i liveJ live (equal.trans own.symm)),
      kept⟩
  have away {h : Holding} (holds : next.Holds h) (some : 0 < next.outstanding h.handle.name) :
      h.handle.entry ≠ i := by
    intro here
    have known := (Title.isNamed_iff.mp holds.named).2
    rw [here, register, own] at known
    rw [← known, none] at some
    exact Nat.lt_irrefl 0 some
  refine ⟨sane.trans balanced.sane, ?_, ?_, ?_, ?_, ?_⟩
  · intro j liveJ
    rw [register] at liveJ
    obtain ⟨before, apart, kept⟩ := elsewhere liveJ
    rw [register, kept, outstanding_withRegister, same _ apart]
    exact balanced.counted j before
  · intro j liveJ
    rw [register] at liveJ
    obtain ⟨before, apart, kept⟩ := elsewhere liveJ
    rw [register, kept, outstanding_withRegister, same _ apart]
    exact balanced.claimed j before
  · intro other wanted
    rw [outstanding_withRegister] at wanted
    have apart : other ≠ name := by
      intro equal
      rw [equal, none] at wanted
      exact Nat.lt_irrefl 0 wanted
    obtain ⟨j, found⟩ := balanced.present other (same other apart ▸ wanted)
    have differs : j ≠ i := by
      intro here
      rw [here] at found
      exact apart ((Title.isNamed_iff.mp found).2.symm.trans own)
    refine ⟨j, ?_⟩
    rw [register, Register.remove_title_other _ differs,
      Register.setReferences_title_other _ differs]
    exact found
  · intro h bound opened
    have holds := producers h bound opened
    exact holds.remove (away holds (outstanding_of_producer bound opened))
  · intro h bound opened
    obtain ⟨holds, claimed⟩ := consumers h bound opened
    exact ⟨holds.remove (away holds (outstanding_of_claim claimed)), claimed⟩

theorem Balanced.add
    (more : ∀ other, next.outstanding other =
      l.outstanding other + if other = name then 1 else 0)
    (room : next.outstanding name < Word.values32) : (next.addReference i).Balanced := by
  obtain ⟨live, own⟩ := Title.isNamed_iff.mp named
  have before := balanced.counted i live
  have grown : next.outstanding name = l.outstanding name + 1 := by rw [more, if_pos rfl]
  rw [own] at before
  rw [grown] at room
  refine balanced.recount next consistent named register sane producers consumers ?_ ?_ ?_
  · rw [register, UInt32.toNat_add, before, grown]
    exact Nat.mod_eq_of_lt room
  · rw [grown]
    exact Nat.succ_pos _
  · intro other differs
    rw [more, if_neg differs, Nat.add_zero]

theorem Balanced.drop
    (less : ∀ other, next.outstanding other + (if other = name then 1 else 0) =
      l.outstanding other) : (next.drop i name).Balanced := by
  obtain ⟨live, own⟩ := Title.isNamed_iff.mp named
  have before := balanced.counted i live
  rw [own, ← less name, if_pos rfl, ← register] at before
  have some : (1 : UInt32) ≤ (next.register.title i).references := by
    rw [UInt32.le_iff_toNat_le, before]
    exact Nat.le_add_left ..
  have count : ((next.register.title i).references - 1).toNat = next.outstanding name := by
    rw [UInt32.toNat_sub_of_le _ _ some, before]
    rfl
  have same (other : String) (differs : other ≠ name) :
      next.outstanding other = l.outstanding other := by
    rw [← less other, if_neg differs, Nat.add_zero]
  have removable : next.register.canRemove i name = true :=
    Register.canRemove_iff.mpr (register ▸ ⟨named, consistent.served i live⟩)
  have sound {r : Register} (dropped : next.register.drop i name = (r, false)) :
      next.drop i name = { next with register := r } := by
    rw [Ledger.drop, dropped, Bool.or_false]
  rcases next.register.drop_cases i name with
    ⟨more, dropped⟩ | ⟨last, -, dropped⟩ | ⟨-, cannot, -⟩
  · rw [sound dropped]
    refine balanced.recount next consistent named register sane producers consumers count ?_ same
    rw [← count, Nat.pos_iff_ne_zero]
    exact fun zero => more (UInt32.toNat_inj.mp zero)
  · rw [sound dropped]
    refine balanced.remove next consistent named register sane producers consumers ?_ same
    rw [← count, last]
    rfl
  · rw [removable] at cannot
    cases cannot

end Exchange

section Create

/-! A queue is laid out for a claim in a place that was free: `next` is the ledger after that. -/

variable {b : Nat} {session : Session} (next : Ledger)
  (made : next = { l with
    register := l.register.layOut i b name
    claims := (session, name) :: l.claims
    laidOut := Function.update l.laidOut i (name :: l.laidOut i) })
  (place : (l.register.title i).live = false)
include made

theorem outstanding_create (other : String) :
    next.outstanding other = l.outstanding other + if other = name then 1 else 0 := by
  subst made
  exact outstanding_claim l session name other

include place

/-- Nobody holds on to a place that is free, so whoever holds on to a queue keeps it. -/
theorem Holds.create (holds : l.Holds h) : next.Holds h := by
  subst made
  have other : h.handle.entry ≠ i := by
    intro here
    have live := (Title.isNamed_iff.mp holds.named).1
    rw [here, place] at live
    cases live
  have kept := Register.layOut_title_other l.register other b name
  exact holds.move (congrArg Title.live kept) (congrArg Title.key kept)
    (congrArg Title.block kept) (Function.update_of_ne other ..)

/-- A queue that is laid out for a claim has that claim for its only reference. -/
theorem Balanced.create (balanced : l.Balanced) (valid : isQueueName name = true)
    (absent : ∀ j, (l.register.title j).isNamed name = false) : next.Balanced := by
  have none : l.outstanding name = 0 := by
    by_contra some
    obtain ⟨j, named⟩ := balanced.present name (Nat.pos_of_ne_zero some)
    rw [absent] at named
    cases named
  have apart {j} (live : (l.register.title j).live = true) : (l.register.title j).name ≠ name := by
    intro equal
    have named := Title.isNamed_iff.mpr ⟨live, equal⟩
    rw [absent] at named
    cases named
  have own : ((l.register.layOut i b name).title i).name = name := by
    rw [Register.layOut_title_self]
    exact (keyName_nameKey valid).2
  have outstanding := outstanding_create next made
  have moved {h : Holding} (holds : l.Holds h) : next.Holds h := holds.create next made place
  subst made
  refine ⟨balanced.sane, ?_, ?_, ?_, ?_, ?_⟩
  · intro j live
    rw [outstanding]
    by_cases here : j = i
    · rw [here, own, none, Register.layOut_title_self, if_pos rfl]
      rfl
    · rw [Register.layOut_title_other _ here] at live ⊢
      rw [if_neg (apart live), Nat.add_zero]
      exact balanced.counted j live
  · intro j live
    rw [outstanding]
    by_cases here : j = i
    · rw [here, own, if_pos rfl]
      exact Nat.succ_pos _
    · rw [Register.layOut_title_other _ here] at live ⊢
      exact Nat.add_pos_left (balanced.claimed j live) _
  · intro other wanted
    by_cases equal : other = name
    · refine ⟨i, Title.isNamed_iff.mpr ⟨?_, own.trans equal.symm⟩⟩
      rw [Register.layOut_title_self]
    · rw [outstanding, if_neg equal, Nat.add_zero] at wanted
      obtain ⟨j, named⟩ := balanced.present other wanted
      have differs : j ≠ i := by
        intro here
        have live := (Title.isNamed_iff.mp named).1
        rw [here, place] at live
        cases live
      refine ⟨j, ?_⟩
      rw [Register.layOut_title_other _ differs]
      exact named
  · exact fun h bound opened => moved (balanced.producers h bound opened)
  · intro h bound opened
    obtain ⟨holds, claimed⟩ := balanced.consumers h bound opened
    exact ⟨moved holds, List.mem_cons_of_mem _ claimed⟩

end Create

/-- How sessions keep to their own claims: they bind only under one, and give up only one that
stands, with the last of them after letting go of their consumers. Nothing is claimed so often that
a count cannot say it. -/
def Orderly (l after : Ledger) : Move → Prop
  | .acquire _ _ name _ => after.outstanding name < Word.values32
  | .bind _ session name _ _ _ =>
    (session, name) ∈ l.claims ∧ after.outstanding name < Word.values32
  | .release _ session name =>
    (session, name) ∈ l.claims ∧
      (l.claims.count (session, name) = 1 → ∀ h ∈ l.consumers, h.isOpen = true →
        h.session = session → h.handle.name ≠ name)
  | .disconnect .. => True
  | .produce .. => True
  | .consume .. => True

instance (l after : Ledger) : (move : Move) → Decidable (l.Orderly after move)
  | .acquire _ _ name _ => inferInstanceAs (Decidable (after.outstanding name < Word.values32))
  | .bind _ session name _ _ _ =>
    inferInstanceAs (Decidable ((session, name) ∈ l.claims ∧ _ < Word.values32))
  | .release _ session name =>
    inferInstanceAs (Decidable ((session, name) ∈ l.claims ∧
      (l.claims.count (session, name) = 1 → ∀ h ∈ l.consumers, h.isOpen = true →
        h.session = session → h.handle.name ≠ name)))
  | .disconnect .. => .isTrue trivial
  | .produce .. => .isTrue trivial
  | .consume .. => .isTrue trivial

/-- A consumer's session still has a claim after it gave up one that was not the last, or one of
another queue. -/
theorem claimed_after_release {session : Session}
    (last : l.claims.count (session, name) = 1 → ∀ h ∈ l.consumers, h.isOpen = true →
      h.session = session → h.handle.name ≠ name)
    (bound : h ∈ l.consumers) (opened : h.isOpen = true)
    (claimed : (h.session, h.handle.name) ∈ l.claims) :
    (h.session, h.handle.name) ∈ l.claims.erase (session, name) := by
  by_cases same : (h.session, h.handle.name) = (session, name)
  · obtain ⟨session', name'⟩ := Prod.mk.inj same
    rw [same] at claimed ⊢
    rw [← List.count_pos_iff, List.count_erase_self]
    have some := List.count_pos_iff.mpr claimed
    have more : l.claims.count (session, name) ≠ 1 := fun one =>
      last one h bound opened session' name'
    omega
  · exact (List.mem_erase_of_ne same).mpr claimed

/-- Sessions give up no more claims than they made, and nothing is claimed so often that a count
cannot say it. -/
def Modest (l after : Ledger) : Move → Prop
  | .acquire _ _ name _ => after.outstanding name < Word.values32
  | .bind _ _ name _ _ _ => after.outstanding name < Word.values32
  | .release _ session name => (session, name) ∈ l.claims
  | .disconnect .. => True
  | .produce .. => True
  | .consume .. => True

instance (l after : Ledger) : (move : Move) → Decidable (l.Modest after move)
  | .acquire _ _ name _ => inferInstanceAs (Decidable (after.outstanding name < Word.values32))
  | .bind _ _ name _ _ _ => inferInstanceAs (Decidable (after.outstanding name < Word.values32))
  | .release _ session name => inferInstanceAs (Decidable ((session, name) ∈ l.claims))
  | .disconnect .. => .isTrue trivial
  | .produce .. => .isTrue trivial
  | .consume .. => .isTrue trivial

variable {move : Move}

theorem Orderly.modest (orderly : l.Orderly after move) : l.Modest after move := by
  cases move with
  | acquire live session name consumers => exact orderly
  | bind live session name consumerNodes distribution limit => exact orderly.2
  | release live session name => exact orderly.1
  | disconnect live session name => trivial
  | produce k move => trivial
  | consume k move => trivial

/-- The books stay right as long as open consumers are under claims of their sessions. -/
theorem Step.balanced_of_claimed (step : Step l move after) (balanced : l.Balanced)
    (consistent : l.register.Consistent) (modest : l.Modest after move)
    (claimed : ∀ h ∈ after.consumers, h.isOpen = true →
      (h.session, h.handle.name) ∈ after.claims) : after.Balanced := by
  have holding {i : Nat} {name : String} (named : (l.register.title i).isNamed name = true)
      (session : Session) : l.Holds (l.holding i name session) := ⟨named, rfl, rfl⟩
  cases step with
  | quiet => exact balanced
  | create valid place _ absent => exact Balanced.create _ rfl place balanced valid absent
  | @join _ session name _ i named =>
    refine Balanced.add { l with claims := (session, name) :: l.claims } balanced
      consistent named rfl rfl (fun h bound opened => ?_) (fun h bound opened => ?_)
      (outstanding_claim l session name) modest
    · exact (balanced.producers h bound opened).move rfl rfl rfl rfl
    · exact ⟨(balanced.consumers h bound opened).1.move rfl rfl rfl rfl, claimed h bound opened⟩
  | @takeProducer _ session name _ _ _ i named =>
    refine Balanced.add { l with producers := l.producers ++ [l.holding i name session] }
      balanced consistent named rfl rfl (fun h bound opened => ?_) (fun h bound opened => ?_)
      (outstanding_bind l _ rfl) modest
    · rcases List.mem_append.mp bound with before | new
      · exact (balanced.producers h before opened).move rfl rfl rfl rfl
      · rw [List.mem_singleton.mp new]
        exact (holding named session).move rfl rfl rfl rfl
    · exact ⟨(balanced.consumers h bound opened).1.move rfl rfl rfl rfl, claimed h bound opened⟩
  | @takeConsumer _ session name _ _ _ i named =>
    refine ⟨balanced.sane, balanced.counted, balanced.claimed, balanced.present, ?_, ?_⟩
    · exact fun h bound opened => (balanced.producers h bound opened).move rfl rfl rfl rfl
    · intro h bound opened
      refine ⟨?_, claimed h bound opened⟩
      rcases List.mem_append.mp bound with before | new
      · exact (balanced.consumers h before opened).1.move rfl rfl rfl rfl
      · rw [List.mem_singleton.mp new]
        exact (holding named session).move rfl rfl rfl rfl
  | @give _ session name i named =>
    refine Balanced.drop { l with claims := l.claims.erase (session, name) } balanced
      consistent named rfl rfl (fun h bound opened => ?_) (fun h bound opened => ?_)
      (outstanding_erase modest)
    · exact (balanced.producers h bound opened).move rfl rfl rfl rfl
    · exact ⟨(balanced.consumers h bound opened).1.move rfl rfl rfl rfl, claimed h bound opened⟩
  | @giveNothing _ session name absent =>
    obtain ⟨i, named⟩ := balanced.present name (outstanding_of_claim modest)
    rw [absent] at named
    cases named
  | @settle k _ held here opened =>
    have holds := balanced.producers held (List.mem_of_getElem? here) opened
    refine Balanced.drop { l with producers := l.producers.set k held.close } balanced
      consistent holds.named rfl rfl (fun h bound open' => ?_) (fun h bound open' => ?_)
      (outstanding_settle here opened)
    · rcases List.mem_or_eq_of_mem_set bound with before | closed
      · exact (balanced.producers h before open').move rfl rfl rfl rfl
      · rw [closed] at open'
        cases open'
    · exact ⟨(balanced.consumers h bound open').1.move rfl rfl rfl rfl, claimed h bound open'⟩
  | @leave k held here =>
    refine ⟨balanced.sane, balanced.counted, balanced.claimed, balanced.present, ?_, ?_⟩
    · exact fun h bound opened => (balanced.producers h bound opened).move rfl rfl rfl rfl
    · intro h bound opened
      refine ⟨?_, claimed h bound opened⟩
      rcases List.mem_or_eq_of_mem_set bound with before | closed
      · exact (balanced.consumers h before opened).1.move rfl rfl rfl rfl
      · rw [closed] at opened
        cases opened

theorem Step.balanced (step : Step l move after) (balanced : l.Balanced)
    (consistent : l.register.Consistent) (orderly : l.Orderly after move) : after.Balanced := by
  refine step.balanced_of_claimed balanced consistent orderly.modest fun h bound opened => ?_
  have own (before : h ∈ l.consumers) := (balanced.consumers h before opened).2
  cases step with
  | quiet => exact own bound
  | create => exact List.mem_cons_of_mem _ (own bound)
  | join => exact List.mem_cons_of_mem _ (own bound)
  | takeProducer => exact own bound
  | takeConsumer =>
    rcases List.mem_append.mp bound with before | new
    · exact own before
    · rw [List.mem_singleton.mp new]
      exact orderly.1
  | give => exact claimed_after_release orderly.2 bound opened (own bound)
  | giveNothing => exact claimed_after_release orderly.2 bound opened (own bound)
  | settle => exact own bound
  | leave =>
    rcases List.mem_or_eq_of_mem_set bound with before | closed
    · exact own before
    · rw [closed] at opened
      cases opened

section Producers

/-! What the producers hold on to depends on the consumers in no way. -/

def withoutConsumers (l : Ledger) : Ledger := { l with consumers := [] }

theorem Step.withoutConsumers (step : Step l move after) :
    Step l.withoutConsumers move after.withoutConsumers ∨
      after.withoutConsumers = l.withoutConsumers := by
  cases step with
  | quiet => exact .inr rfl
  | create valid place pool absent =>
    exact .inl (.create (l := l.withoutConsumers) valid place pool absent)
  | join named => exact .inl (.join (l := l.withoutConsumers) named)
  | takeProducer named => exact .inl (.takeProducer (l := l.withoutConsumers) named)
  | takeConsumer => exact .inr rfl
  | give named => exact .inl (.give (l := l.withoutConsumers) named)
  | giveNothing absent => exact .inl (.giveNothing (l := l.withoutConsumers) absent)
  | settle here opened => exact .inl (.settle (l := l.withoutConsumers) here opened)
  | leave => exact .inr rfl

/-- For the books without the consumers, sessions need not look after their consumers. -/
theorem Step.balanced_withoutConsumers (step : Step l move after)
    (balanced : l.withoutConsumers.Balanced) (consistent : l.register.Consistent)
    (modest : l.Modest after move) : after.withoutConsumers.Balanced := by
  rcases step.withoutConsumers with step | same
  · refine step.balanced_of_claimed balanced consistent ?_ nofun
    cases move with
    | acquire live session name consumers => exact modest
    | bind live session name consumerNodes distribution limit => exact modest
    | release live session name => exact modest
    | disconnect live session name => trivial
    | produce k move => trivial
    | consume k move => trivial
  · rw [same]
    exact balanced

end Producers

end Ledger

namespace Commons

variable {x : Commons}

/-- Claims on the queue `name` that were not given up, and its producers that have not unbound. -/
def outstanding (x : Commons) (name : String) : Nat := x.ledger.outstanding name

/-- A session keeps to its own claims. -/
def Orderly (x : Commons) (move : Move) : Prop := x.ledger.Orderly (x.perform move).ledger move

instance (x : Commons) (move : Move) : Decidable (x.Orderly move) :=
  inferInstanceAs (Decidable (x.ledger.Orderly (x.perform move).ledger move))

/-- The queue that a handle was bound to, when its place had been laid out `turn` times, is still
there, under the same name and served by the same block. -/
structure StillBound (x : Commons) (handle : Handle) (turn : Nat) : Prop where
  live : (x.memory.entries.getD handle.entry default).live = true
  name : (x.memory.entries.getD handle.entry default).name = handle.name
  block : (x.memory.entries.getD handle.entry default).block = handle.block
  serves : (x.memory.blocks.getD handle.block default).queue = some handle.entry
  turn : x.turn handle.entry = turn
  counted : 1 ≤ (x.memory.entries.getD handle.entry default).references.toNat

theorem start_balanced (c : Config) (creator : ProcessId) : (start c creator).ledger.Balanced := by
  have vacant := start_vacant c creator
  exact ⟨rfl, fun i live => absurd live (vacant i), fun i live => absurd live (vacant i),
    fun name some => absurd some (Nat.lt_irrefl 0), nofun, nofun⟩

theorem balanced_run (founded : x.Founded) (balanced : x.ledger.Balanced) (moves : List Move)
    (orderly : Along Orderly x moves) : (x.run moves).ledger.Balanced := by
  induction moves generalizing x with
  | nil => exact balanced
  | cons move rest ih =>
    exact ih (founded.perform move)
      ((perform_step founded move).1.balanced balanced founded.sound.consistent orderly.1) orderly.2

theorem Founded.stillBound (founded : x.Founded) (balanced : x.ledger.Balanced) {h : Holding}
    (holds : x.ledger.Holds h) : x.StillBound h.handle h.turn := by
  obtain ⟨live, name⟩ := Title.isNamed_iff.mp holds.named
  have serves := founded.sound.consistent.served h.handle.entry live
  have block := holds.block
  rw [block] at serves
  refine ⟨live, name, block, serves, holds.turn, ?_⟩
  have counted := balanced.counted h.handle.entry live
  have claimed := balanced.claimed h.handle.entry live
  rw [← counted] at claimed
  exact claimed

/-- After every run of orderly sessions a queue is there exactly while something is outstanding for
its name, and it has as many references; who has not let go of a queue still has that queue, with a
reference to give up; a claim that stands finds its queue; and nobody had to stop at tables at
odds. -/
theorem references_outstanding (c : Config) (creator : ProcessId) (moves : List Move)
    (orderly : Along Orderly (start c creator) moves) :
    let x := (start c creator).run moves
    let entry (i : Nat) : Entry := x.memory.entries.getD i default
    (∀ name, (∃ i, (entry i).live = true ∧ (entry i).name = name) ↔ 0 < x.outstanding name) ∧
      (∀ i, (entry i).live = true →
        (entry i).references.toNat = x.outstanding (entry i).name) ∧
      (∀ seat ∈ x.producers, seat.isOpen = true →
        x.StillBound seat.producer.handle seat.turn) ∧
      (∀ seat ∈ x.consumers, seat.isOpen = true →
        x.StillBound seat.consumer.handle seat.turn) ∧
      (∀ claim ∈ x.claims, ∃ i, x.memory.find? c.maxQueues claim.2 = some i ∧
        1 ≤ (entry i).references.toNat) ∧
      x.memory.corrupted = false := by
  intro x entry
  have founded : x.Founded := (Founded.start c creator).run moves
  have vacant := start_vacant c creator
  have balanced : x.ledger.Balanced := by
    refine balanced_run (Founded.start c creator) ?_ moves orderly
    exact ⟨rfl, fun i live => absurd live (vacant i), fun i live => absurd live (vacant i),
      fun name some => absurd some (Nat.lt_irrefl 0), nofun, nofun⟩
  have queues : x.geometry.maxQueues = c.maxQueues := by
    rw [show x.geometry = _ from run_geometry ..]
    rfl
  refine ⟨?_, balanced.counted, ?_, ?_, ?_, balanced.sane⟩
  · intro name
    constructor
    · rintro ⟨i, live, named⟩
      rw [← named]
      exact balanced.claimed i live
    · intro some
      obtain ⟨i, named⟩ := balanced.present name some
      exact ⟨i, Title.isNamed_iff.mp named⟩
  · intro seat member opened
    exact founded.stillBound balanced
      (balanced.producers seat.holding (List.mem_map_of_mem member) opened)
  · intro seat member opened
    exact founded.stillBound balanced
      (balanced.consumers seat.holding (List.mem_map_of_mem member) opened).1
  · intro claim member
    have some := Ledger.outstanding_of_claim (l := x.ledger) member
    obtain ⟨i, named⟩ := balanced.present claim.2 some
    obtain ⟨live, own⟩ := Title.isNamed_iff.mp named
    refine ⟨i, ?_, ?_⟩
    · rw [← queues]
      exact (Segment.find?_eq_some_iff founded.built founded.sound.consistent).mpr named
    · have counted := balanced.counted i live
      rw [own] at counted
      rw [← counted] at some
      exact some

/-- A producer and a consumer are bound, and the producer's session gives its claim up early. -/
def earlyRelease : List Move :=
  [.acquire undisturbed ⟨100, 0⟩ "rows" 1, .acquire undisturbed ⟨101, 1⟩ "rows" 1,
    .bind undisturbed ⟨100, 0⟩ "rows" [1] [0, 1] 64,
    .bind undisturbed ⟨101, 1⟩ "rows" [1] [0, 1] 64,
    .release undisturbed ⟨100, 0⟩ "rows"]

theorem references_outstanding_earlyRelease :
    Along Orderly (start narrow 1) earlyRelease ∧
      ((start narrow 1).run earlyRelease).outstanding "rows" = 2 ∧
      (((start narrow 1).run earlyRelease).memory.entries.getD 0 default).references.toNat = 2 ∧
      ((start narrow 1).run earlyRelease).StillBound ⟨0, 0, "rows"⟩ 1 := by
  have orderly : Along Orderly (start narrow 1) earlyRelease := by decide +kernel
  have two : ((start narrow 1).run earlyRelease).outstanding "rows" = 2 := by decide +kernel
  have taken : (((start narrow 1).run earlyRelease).memory.entries.getD 0 default).live = true ∧
      (((start narrow 1).run earlyRelease).memory.entries.getD 0 default).name = "rows" := by
    decide +kernel
  have bound : ((start narrow 1).run earlyRelease).ledger.producers =
      [⟨⟨0, 0, "rows"⟩, ⟨100, 0⟩, 1, true⟩] := by decide +kernel
  obtain ⟨-, counted, producers, -, -, -⟩ := references_outstanding narrow 1 earlyRelease orderly
  refine ⟨orderly, two, ?_, ?_⟩
  · rw [counted 0 taken.1, taken.2]
    exact two
  · obtain ⟨seat, member, holding⟩ :=
      List.mem_map.mp (bound.symm ▸ List.mem_cons_self .. :
        (⟨⟨0, 0, "rows"⟩, ⟨100, 0⟩, 1, true⟩ : Holding) ∈
          ((start narrow 1).run earlyRelease).ledger.producers)
    have still := producers seat member (congrArg Holding.isOpen holding)
    rw [show seat.producer.handle = ⟨0, 0, "rows"⟩ from congrArg Holding.handle holding,
      show seat.turn = 1 from congrArg Holding.turn holding] at still
    exact still

end Commons

end RecordExchange
