import Mathlib.Data.List.Destutter
import RecordExchange.Proofs.Commons.Changes
import RecordExchange.Proofs.Queue.Lifecycle

set_option autoImplicit false

/-!
The lives of all slots over whole runs.

Between two times its place is laid out, a slot lives one life, whatever the parties do in the
meantime, those with handles on queues long gone included: active at first, then on one of the paths
to its end, and closed to new data as soon as it is not active any more.
-/

namespace RecordExchange

/-- Statuses that stay or change by single arrows, without the repetitions, follow the arrows. -/
theorem SlotStatus.destutter_chain {s : SlotStatus} {rest : List SlotStatus}
    (chain : List.IsChain (fun s t => t = s ∨ Next s t) (s :: rest)) :
    ∃ changes, (s :: rest).destutter (· ≠ ·) = s :: changes ∧ List.IsChain Next (s :: changes) := by
  rw [List.destutter_cons']
  induction rest generalizing s with
  | nil => exact ⟨[], rfl, .singleton s⟩
  | cons t rest ih =>
    obtain ⟨first, later⟩ := List.isChain_cons_cons.mp chain
    obtain ⟨changes, same, follow⟩ := ih later
    by_cases stays : s = t
    · subst stays
      rw [List.destutter'_cons_neg rest (fun other => other rfl)]
      exact ⟨changes, same, follow⟩
    · rw [List.destutter'_cons_pos rest stays, same]
      have next : Next s t := first.resolve_left fun back => stays back.symm
      exact ⟨t :: changes, rfl, follow.cons_cons next⟩

namespace Segment

variable {s t : Segment} {h : Handle}

/-- The slot number `i` of the queue in a place of the registry. -/
def slotAt (s : Segment) (entry i : Nat) : Slot :=
  (s.entries.getD entry default).slots.getD i default

/-- From `s` to `t` the queue in a place kept its slots, each of which changed as `S` says. -/
structure Slotwise (S : Slot → Slot → Prop) (s t : Segment) (entry : Nat) : Prop where
  size : (t.entries.getD entry default).slots.size = (s.entries.getD entry default).slots.size
  slots : ∀ i, S (s.slotAt entry i) (t.slotAt entry i)

/-- The queue kept its slots, and each of them lived on. -/
def LivesOn (s t : Segment) (entry : Nat) : Prop := s.Slotwise Slot.Proceeds t entry

section Slotwise

variable {S : Slot → Slot → Prop} (reflexive : ∀ slot, S slot slot)
include reflexive

theorem Slotwise.of_same {e : Nat}
    (same : (t.entries.getD e default).slots = (s.entries.getD e default).slots) :
    s.Slotwise S t e := by
  refine ⟨congrArg Array.size same, fun i => ?_⟩
  unfold slotAt
  rw [same]
  exact reflexive _

theorem Changes.slotwise (changes : s.Changes (fun l m => S l.slot m.slot) t h) (e : Nat) :
    s.Slotwise S t e := by
  by_cases own : e = h.entry
  · subst own
    refine ⟨changes.consumers, fun i => ?_⟩
    by_cases inside : i < (s.queue h).consumers
    · exact changes.own i inside
    · have before : (s.entries.getD h.entry default).slots.size ≤ i := Nat.le_of_not_lt inside
      have after : (t.entries.getD h.entry default).slots.size ≤ i :=
        Nat.le_trans (Nat.le_of_eq changes.consumers) before
      unfold slotAt
      rw [getD_outside before, getD_outside after]
      exact reflexive _
  · exact .of_same reflexive (changes.slots e own)

end Slotwise

theorem Changes.livesOn (changes : s.Changes Lane.Proceeds t h) (e : Nat) : s.LivesOn t e :=
  changes.slotwise Slot.Proceeds.refl e

theorem format_active {e : Nat} (present : e < s.entries.size) (b : Nat) (name : String)
    (consumers ringLen i : Nat) :
    ((s.setQueueAt e b ⟨(s.queueAt e b).entry.format name consumers ringLen b,
      (s.queueAt e b).sync.assign e consumers⟩).slotAt e i).status = .active := by
  simp only [slotAt, setQueueAt, Array.getD_eq_getD_getElem?,
    Array.getElem?_setIfInBounds_self_of_lt present, Option.getD_some, Entry.format,
    Array.getElem?_ofFn]
  split
  · rfl
  · rfl

end Segment

namespace Commons

variable {x : Commons}

/-- The states that a run passes through, with the one before it. -/
def history (x : Commons) : List Move → List Commons
  | [] => [x]
  | move :: rest => x :: (x.perform move).history rest

theorem perform_laidOut (x : Commons) {move : Move}
    (other : ∀ live session name consumers, move ≠ .acquire live session name consumers) :
    (x.perform move).laidOut = x.laidOut := by
  cases move with
  | acquire live session name consumers => exact absurd rfl (other live session name consumers)
  | bind live session name consumerNodes distribution limit =>
    simp only [perform, bind]
    split
    · rfl
    · rfl
    · rfl
  | release live session name =>
    simp only [perform, release]
    split
    · rfl
    · rfl
  | disconnect live session name => rfl
  | produce k move =>
    simp only [perform, produce]
    split
    · rfl
    · rfl
  | consume k move =>
    simp only [perform, consume]
    split
    · rfl
    · rfl

theorem perform_turn (x : Commons) {move : Move}
    (other : ∀ live session name consumers, move ≠ .acquire live session name consumers) (e : Nat) :
    (x.perform move).turn e = x.turn e := by
  rw [turn, perform_laidOut x other]
  rfl

theorem produce_turn (x : Commons) (k : Nat) (move : ProducerMove) (e : Nat) :
    (x.perform (.produce k move)).turn e = x.turn e :=
  x.perform_turn (fun _ _ _ _ => Move.noConfusion) e

theorem consume_turn (x : Commons) (k : Nat) (move : ConsumerMove) (e : Nat) :
    (x.perform (.consume k move)).turn e = x.turn e :=
  x.perform_turn (fun _ _ _ _ => Move.noConfusion) e

/-- A place is laid out once more, or as often as before. -/
theorem turn_le_perform (founded : x.Founded) (move : Move) (e : Nat) :
    x.turn e ≤ (x.perform move).turn e := by
  by_cases claim : ∃ live session name consumers, move = .acquire live session name consumers
  · obtain ⟨live, session, name, consumers, rfl⟩ := claim
    rcases acquire_changes founded Lane.proceeds_others.refl live session name consumers with
      ⟨-, same⟩ | ⟨place, b, -, -, -, turns, -⟩
    · unfold turn
      rw [perform, same]
    · unfold turn
      rw [perform, turns, Function.update_apply]
      split
      · rename_i here
        rw [here, List.length_cons]
        omega
      · exact Nat.le_refl _
  · unfold turn
    rw [perform_laidOut x fun live session name consumers same =>
      claim ⟨live, session, name, consumers, same⟩]

theorem turn_le_run (founded : x.Founded) (moves : List Move) (e : Nat) :
    x.turn e ≤ (x.run moves).turn e := by
  induction moves generalizing x with
  | nil => exact Nat.le_refl _
  | cons move rest ih =>
    exact Nat.le_trans (turn_le_perform founded move e) (ih (founded.perform move))

/-- What moves keep as long as a place holds its queue is kept by a run that leaves it there. -/
theorem run_turn_induction {motive : Commons → Prop} (founded : x.Founded) (e : Nat)
    (start : motive x)
    (step : ∀ (y : Commons) move, y.Founded → (y.perform move).turn e = y.turn e → motive y →
      motive (y.perform move))
    (moves : List Move) (same : (x.run moves).turn e = x.turn e) : motive (x.run moves) := by
  induction moves generalizing x with
  | nil => exact start
  | cons move rest ih =>
    have first := turn_le_perform founded move e
    have others := turn_le_run (founded.perform move) rest e
    have same : ((x.perform move).run rest).turn e = x.turn e := same
    have now : (x.perform move).turn e = x.turn e := by omega
    exact ih (founded.perform move) (step x move founded now start) (by omega)

/-- A place whose queue is the same is not the one that was laid out. -/
theorem elsewhere_of_turn {y : Commons} {e laid : Nat} {name : String}
    (turns : y.laidOut = Function.update x.laidOut laid (name :: x.laidOut laid))
    (same : y.turn e = x.turn e) : e ≠ laid := by
  rintro rfl
  simp only [turn, turns, Function.update_self, List.length_cons] at same
  omega

theorem eq_of_turn {y : Commons} {e laid : Nat} {name : String}
    (turns : y.laidOut = Function.update x.laidOut laid (name :: x.laidOut laid))
    (other : y.turn e ≠ x.turn e) : laid = e := by
  by_contra elsewhere
  refine other (congrArg List.length ?_)
  rw [turns, Function.update_of_ne (Ne.symm elsewhere)]

/-- A claim leaves the slots of a place alone that it does not lay out. -/
theorem acquire_slotwise {S : Slot → Slot → Prop} (reflexive : ∀ slot, S slot slot)
    (founded : x.Founded) (live : Liveness) (session : Session) (name : String) (consumers : Nat)
    {e : Nat} (same : (x.acquire live session name consumers).turn e = x.turn e) :
    x.memory.Slotwise S (x.acquire live session name consumers).memory e := by
  rcases acquire_changes (R := fun l m => S l.slot m.slot) founded (fun _ => reflexive _) live
      session name consumers with
    ⟨⟨h, changes⟩, -⟩ | ⟨laid, b, -, -, -, turns, made⟩
  · exact changes.slotwise reflexive e
  · apply Segment.Slotwise.of_same reflexive
    rw [made, Segment.setQueueAt_entry_other (elsewhere_of_turn turns same)]

theorem produce_slotwise {S : Slot → Slot → Prop}
    (obeys : Producer.Obeys fun l m => S l.slot m.slot) (reflexive : ∀ slot, S slot slot)
    (founded : x.Founded) (k : Nat) (move : ProducerMove) (e : Nat) :
    x.memory.Slotwise S (x.produce k move).memory e := by
  cases here : x.producers[k]? with
  | none =>
    rw [produce_none here]
    exact .of_same reflexive rfl
  | some seat => exact (produce_changes founded obeys here move).slotwise reflexive e

theorem consume_slotwise {S : Slot → Slot → Prop}
    (obey : Queue.ReadersObey fun l m => S l.slot m.slot) (reflexive : ∀ slot, S slot slot)
    (founded : x.Founded) (k : Nat) (move : ConsumerMove) (e : Nat) :
    x.memory.Slotwise S (x.consume k move).memory e := by
  cases here : x.consumers[k]? with
  | none =>
    rw [consume_none here]
    exact .of_same reflexive rfl
  | some seat => exact (consume_changes founded obey here move).slotwise reflexive e

/-- Whoever moves, the slots of a place that is not laid out anew change as all work on slots
does. -/
theorem perform_slotwise {S : Slot → Slot → Prop}
    (obeys : Producer.Obeys fun l m => S l.slot m.slot)
    (obey : Queue.OthersObey fun l m => S l.slot m.slot) (reflexive : ∀ slot, S slot slot)
    (founded : x.Founded) (move : Move) {e : Nat} (same : (x.perform move).turn e = x.turn e) :
    x.memory.Slotwise S (x.perform move).memory e := by
  cases move with
  | acquire live session name consumers =>
    exact acquire_slotwise reflexive founded live session name consumers same
  | bind live session name consumerNodes distribution limit =>
    obtain ⟨h, changes⟩ := bind_changes founded obey.refl obey.takesUp obey.attaches live session name
      consumerNodes distribution limit
    exact changes.slotwise reflexive e
  | release live session name =>
    obtain ⟨h, changes⟩ := release_changes founded obey.refl obey.releases live session name
    exact changes.slotwise reflexive e
  | disconnect live session name =>
    obtain ⟨h, changes⟩ := disconnect_changes founded obey.refl obey.disconnects live session name
    exact changes.slotwise reflexive e
  | produce k move => exact produce_slotwise obeys reflexive founded k move e
  | consume k move => exact consume_slotwise obey.toReadersObey reflexive founded k move e

/-- The slots of a place that is not laid out anew live on. -/
theorem perform_livesOn (founded : x.Founded) (move : Move) {e : Nat}
    (same : (x.perform move).turn e = x.turn e) :
    x.memory.LivesOn (x.perform move).memory e :=
  perform_slotwise Lane.proceeds_obeys Lane.proceeds_others Slot.Proceeds.refl founded move same

/-- A move that lays a place out writes a new entry there, whose buffers have room for a byte beside
a length word. -/
theorem laidOut_formatted (founded : x.Founded) {move : Move} {e : Nat}
    (laid : (x.perform move).turn e ≠ x.turn e) :
    e < x.memory.entries.size ∧ ∃ b name consumers ringLen,
      (ringLen = ringLength x.geometry.queueSize consumers ∧ LengthWord.size < ringLen) ∧
        (x.perform move).memory = x.memory.setQueueAt e b
          ⟨(x.memory.queueAt e b).entry.format name consumers ringLen b,
            (x.memory.queueAt e b).sync.assign e consumers⟩ := by
  by_cases claim : ∃ live session name consumers, move = .acquire live session name consumers
  · obtain ⟨live, session, name, consumers, rfl⟩ := claim
    rcases acquire_changes founded Lane.proceeds_others.refl live session name consumers with
      ⟨-, same⟩ | ⟨place, b, free, -, room, turns, made⟩
    · unfold turn at laid
      rw [perform, same] at laid
      exact absurd rfl laid
    · obtain rfl := eq_of_turn turns laid
      exact ⟨Nat.lt_of_lt_of_le (Segment.freeEntry?_some free).1
        (Nat.le_of_eq founded.built.entries.symm), b, name, consumers, _, ⟨rfl, room⟩, made⟩
  · unfold turn at laid
    rw [perform_laidOut x fun live session name consumers same =>
      claim ⟨live, session, name, consumers, same⟩] at laid
    exact absurd rfl laid

theorem laidOut_active (founded : x.Founded) {move : Move} {e : Nat}
    (laid : (x.perform move).turn e ≠ x.turn e) (i : Nat) :
    ((x.perform move).memory.slotAt e i).status = .active := by
  obtain ⟨present, b, name, consumers, ringLen, -, made⟩ := laidOut_formatted founded laid
  rw [made]
  exact Segment.format_active present b name consumers ringLen i

def life (states : List Commons) (e i : Nat) : List Slot :=
  states.map fun x => x.memory.slotAt e i

instance : Trans Slot.Proceeds Slot.Proceeds Slot.Proceeds := ⟨Slot.Proceeds.trans⟩

/-- While a place is not laid out anew, each of its slots lives on from every state of the run to
every later one. -/
theorem history_proceeds (founded : x.Founded) (moves : List Move) {e : Nat}
    (same : ∀ y ∈ x.history moves, y.turn e = x.turn e) (i : Nat) :
    (life (x.history moves) e i).IsChain Slot.Proceeds := by
  induction moves generalizing x with
  | nil => exact .singleton _
  | cons move rest ih =>
    have head : x.perform move ∈ x.history (move :: rest) := by
      apply List.mem_cons_of_mem
      cases rest with
      | nil => exact List.mem_singleton_self _
      | cons next rest => exact List.mem_cons_self
    have first := (perform_livesOn founded move (same _ head)).slots i
    have later := ih (founded.perform move) fun y member =>
      (same y (List.mem_cons_of_mem _ member)).trans (same _ head).symm
    cases rest with
    | nil => exact later.cons_cons first
    | cons next rest => exact later.cons_cons first

/-- For every run that lays a queue out in a place, and every number of moves after that by any
parties, those with handles on earlier queues of the place included, as long as the place is not
laid out again: each of its slots is active at first, and its statuses, repetitions aside, follow
one of the paths active - eof - done, active - error - done and active - done. And from any time on
at which the slot is not active, nothing is put into its buffer. -/
theorem slot_life (c : Config) (creator : ProcessId) (earlier : List Move) (move : Move)
    (later : List Move) (e i : Nat) :
    let x := (start c creator).run earlier
    let y := x.perform move
    y.turn e ≠ x.turn e → (∀ z ∈ y.history later, z.turn e = y.turn e) →
      (∃ path ∈ SlotStatus.paths,
          ((life (y.history later) e i).map Slot.status).destutter (· ≠ ·) <+: path) ∧
        (life (y.history later) e i).Pairwise fun s t => s.status ≠ .active → s.ring.Drains t.ring := by
  intro x y laid same
  have founded : x.Founded := (Founded.start c creator).run earlier
  have chain := history_proceeds (founded.perform move) later same i
  refine ⟨?_, chain.pairwise.imp Slot.Proceeds.ring⟩
  have active : (y.memory.slotAt e i).status = .active := laidOut_active founded laid i
  obtain ⟨rest, begins⟩ : ∃ rest, (life (y.history later) e i).map Slot.status = .active :: rest := by
    cases later with
    | nil => exact ⟨[], congrArg (fun status => [status]) active⟩
    | cons next later =>
      exact ⟨(life ((y.perform next).history later) e i).map Slot.status,
        congrArg (fun status => status :: _) active⟩
  have statuses : List.IsChain (fun s t => t = s ∨ SlotStatus.Next s t)
      ((life (y.history later) e i).map Slot.status) :=
    List.isChain_map _ |>.mpr (chain.imp fun _ _ proceeds => proceeds.status)
  rw [begins] at statuses ⊢
  obtain ⟨changes, same, follow⟩ := SlotStatus.destutter_chain statuses
  rw [same]
  exact SlotStatus.chain_paths follow

/-- A second claim, both parties bound, one record written, the queue finished and read to its end,
and a record written after that. -/
def readOut : List Move :=
  [.acquire undisturbed ⟨101, 1⟩ "rows" 1,
    .bind undisturbed ⟨100, 0⟩ "rows" [1] [0, 1] 64,
    .bind undisturbed ⟨101, 1⟩ "rows" [1] [0, 1] 64,
    .produce 0 (.call (.write 0 [7])), .produce 0 (.call .finish), .consume 0 (.read true),
    .consume 0 (.read true), .produce 0 (.call (.write 0 [8]))]

/-- The first slot of a queue that is read to its end. -/
theorem slot_life_readOut :
    let x := (start narrow 1).run []
    let y := x.perform (.acquire undisturbed ⟨100, 0⟩ "rows" 1)
    y.turn 0 ≠ x.turn 0 ∧ (∀ z ∈ y.history readOut, z.turn 0 = y.turn 0) ∧
      (life (y.history readOut) 0 0).map Slot.status =
        [.active, .active, .active, .active, .active, .eof, .eof, .done, .done] ∧
      ∃ path ∈ SlotStatus.paths,
        ((life (y.history readOut) 0 0).map Slot.status).destutter (· ≠ ·) <+: path := by
  have laid : ((start narrow 1).perform (.acquire undisturbed ⟨100, 0⟩ "rows" 1)).turn 0 ≠
      (start narrow 1).turn 0 := by decide +kernel
  have same : ∀ z ∈ ((start narrow 1).perform
      (.acquire undisturbed ⟨100, 0⟩ "rows" 1)).history readOut,
      z.turn 0 = ((start narrow 1).perform (.acquire undisturbed ⟨100, 0⟩ "rows" 1)).turn 0 := by
    decide +kernel
  refine ⟨laid, same, by decide +kernel, ?_⟩
  exact (slot_life narrow 1 [] (.acquire undisturbed ⟨100, 0⟩ "rows" 1) readOut 0 0 laid same).1

end Commons

end RecordExchange
