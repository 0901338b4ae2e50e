import Mathlib.Data.Finset.Card
import Mathlib.Data.List.GetD
import RecordExchange.Proofs.Queue.Attendance

set_option autoImplicit false

/-!
Which node a slot is handed to.

A producer that binds asks for a slot for each node of its distribution, and the slots are handed
out from the first on, each node getting one. After that only a session that gives a claim up
changes the node of a slot: it takes the first one that was not handed out.
-/

namespace RecordExchange

namespace Lane

/-- The slot stays with the node it was handed to. -/
def KeepsNode (before after : Lane) : Prop := after.slot.node = before.slot.node

theorem KeepsNode.of_holder {l m : Lane} (holder : m.slot.holder = l.slot.holder) :
    l.KeepsNode m := congrArg Session.node holder

theorem keepsNode_obeys : Producer.Obeys KeepsNode where
  refl _ := rfl
  trans first second := second.trans first
  writes o limit record := .of_holder (Outlet.write_holder o limit record)
  finishes o := .of_holder (Outlet.finish_holder o)
  fails _ := rfl
  givesUp _ := rfl
  sweeps failed l := .of_holder (Producer.sweepLane_holder failed l)

theorem keepsNode_readers : Queue.ReadersObey KeepsNode where
  refl _ := rfl
  reads _ _ canWait point _ inside := .of_holder (Consumer.readStep_holder canWait point inside)
  leaves _ _ _ inside := .of_holder (Consumer.reset_holder inside)

end Lane

namespace Queue

variable {q : Queue} {session : Session} {node own : NodeId} {i : Nat}
  {consumerNodes nodes earlier rest : List NodeId}

theorem bindConsumer_keepsNode (q : Queue) (session : Session) (name : String) :
    q.Lanewise Lane.KeepsNode (q.bindConsumer session name).1 := by
  intro j inside
  unfold Lane.KeepsNode
  cases q.bindConsumer_admits session name with
  | refuses cause made => rw [made]
  | closes i here closed cause made =>
    rw [made, wakeProducer_lane]
    by_cases same : i = j
    · subst same
      rw [lane_setLane_self inside]
      rfl
    · rw [lane_setLane_other q same]
  | attaches i here free opened made =>
    rw [made]
    by_cases same : i = j
    · subst same
      rw [lane_setLane_self inside]
    · rw [lane_setLane_other q same]

theorem slotOf?_eq_some : q.slotOf? node = some i ↔
    i < q.consumers ∧ (q.lane i).slot.node = node ∧
      ∀ j, j < i → (q.lane j).slot.node ≠ node := by
  simp only [slotOf?, List.find?_range_eq_some, List.mem_range, beq_iff_eq, Bool.not_eq_true',
    beq_eq_false_iff_ne]
  exact and_left_comm

theorem slotOf?_eq_none : q.slotOf? node = none ↔
    ∀ i, i < q.consumers → (q.lane i).slot.node ≠ node := by
  simp only [slotOf?, List.find?_eq_none, List.mem_range, beq_iff_eq]

/-- A session that gives its claim up is handed the first slot nobody has, which is done then, if it
has no slot yet; all other slots stay with their nodes. -/
theorem releaseConsumer_node (q : Queue) (session : Session) (inside : i < q.consumers) :
    ((q.releaseConsumer session).lane i).slot.node = (q.lane i).slot.node ∨
      q.slotOf? session.node = none ∧ q.slotOf? Slot.unassigned = some i ∧
        ((q.releaseConsumer session).lane i).slot.node = session.node ∧
        ((q.releaseConsumer session).lane i).slot.status = .done := by
  simp only [releaseConsumer]
  cases mine : q.slotOf? session.node with
  | some j =>
    left
    dsimp only
    split
    · rfl
    · rw [wakeProducer_lane]
      by_cases same : j = i
      · subst same
        rw [lane_setLane_self inside]
        rfl
      · rw [lane_setLane_other q same]
  | none =>
    rw [wakeProducer_lane]
    cases spare : q.slotOf? Slot.unassigned with
    | none => exact .inl rfl
    | some j =>
      dsimp only
      by_cases same : j = i
      · subst same
        rw [lane_setLane_self (by rw [mapLanes_consumers]; exact inside)]
        exact .inr ⟨rfl, rfl, rfl, rfl⟩
      · left
        rw [lane_setLane_other _ same, lane_mapLanes inside]
        split
        · rfl
        · rfl

theorem giveUp_node (q : Queue) (session : Session) (inside : i < q.consumers) :
    ((q.giveUp session).lane i).slot.node = (q.lane i).slot.node ∨
      (q.entry.producerNode ≠ Slot.unassigned ∧ q.entry.producerNode ≠ session.node) ∧
        q.slotOf? session.node = none ∧ q.slotOf? Slot.unassigned = some i ∧
        ((q.giveUp session).lane i).slot.node = session.node ∧
        ((q.giveUp session).lane i).slot.status = .done := by
  rw [giveUp]
  split
  · exact .inl rfl
  · rename_i foreign
    rcases q.releaseConsumer_node session inside with same | given
    · exact .inl same
    · exact .inr ⟨not_or.mp foreign, given⟩

def mapNode (q : Queue) (own : NodeId) (consumerNodes : List NodeId) (node : NodeId) :
    Queue × ConsumerMapping :=
  if node = own then (q, .myself)
  else if node ∈ consumerNodes then q.assignSlot node
  else (q, .absent)

theorem mapConsumers_cons (q : Queue) (own : NodeId) (consumerNodes : List NodeId) (node : NodeId)
    (rest : List NodeId) :
    q.mapConsumers own consumerNodes (node :: rest) =
      (((q.mapNode own consumerNodes node).1.mapConsumers own consumerNodes rest).1,
        (q.mapNode own consumerNodes node).2 ::
          ((q.mapNode own consumerNodes node).1.mapConsumers own consumerNodes rest).2) := rfl

@[simp] theorem mapNode_outline (q : Queue) (own : NodeId) (consumerNodes : List NodeId)
    (node : NodeId) : (q.mapNode own consumerNodes node).1.outline = q.outline := by
  rw [mapNode]
  split
  · rfl
  · split
    · exact assignSlot_outline ..
    · rfl

section Assigning

/-- The slots of the queue were handed to `nodes`, one to each in that order, and the rest to
nobody. -/
structure Allots (q : Queue) (nodes : List NodeId) : Prop where
  slots : ∀ i, i < q.consumers → (q.lane i).slot.node = nodes.getD i Slot.unassigned
  distinct : nodes.Nodup
  assigned : Slot.unassigned ∉ nodes
  few : nodes.length ≤ q.consumers

theorem Allots.node_of_lt (allots : q.Allots nodes) (inside : i < nodes.length) :
    (q.lane i).slot.node = nodes[i] := by
  rw [allots.slots i (Nat.lt_of_lt_of_le inside allots.few), List.getD_eq_getElem _ _ inside]

theorem Allots.node_of_le (allots : q.Allots nodes) (spare : nodes.length ≤ i)
    (inside : i < q.consumers) : (q.lane i).slot.node = Slot.unassigned := by
  rw [allots.slots i inside, List.getD_eq_default _ _ spare]

theorem Allots.lt_of_node (allots : q.Allots nodes) (inside : i < q.consumers)
    (handed : (q.lane i).slot.node ≠ Slot.unassigned) : i < nodes.length := by
  by_contra spare
  exact handed (allots.node_of_le (Nat.le_of_not_lt spare) inside)

theorem Allots.assigned_of_lt (allots : q.Allots nodes) (inside : i < nodes.length) :
    (q.lane i).slot.node ≠ Slot.unassigned := by
  rw [allots.node_of_lt inside]
  exact fun same => allots.assigned (same ▸ List.getElem_mem inside)

/-- A slot that was not handed to nobody carries one of the nodes. -/
theorem Allots.mem_of_node (allots : q.Allots nodes) (inside : i < q.consumers)
    (handed : (q.lane i).slot.node ≠ Slot.unassigned) : (q.lane i).slot.node ∈ nodes := by
  have front := allots.lt_of_node inside handed
  rw [allots.node_of_lt front]
  exact List.getElem_mem front

theorem Allots.unassigned_of_eq (allots : q.Allots nodes) {j : Nat} (first : i < q.consumers)
    (second : j < q.consumers) (other : i ≠ j)
    (same : (q.lane i).slot.node = (q.lane j).slot.node) :
    (q.lane i).slot.node = Slot.unassigned := by
  by_contra handed
  have front := allots.lt_of_node first handed
  have back := allots.lt_of_node second (same ▸ handed)
  rw [allots.node_of_lt front, allots.node_of_lt back] at same
  exact other (allots.distinct.getElem_inj_iff.mp same)

/-- A node that has a slot, or that none is left for, gets none. -/
theorem Allots.assignSlot_absent (allots : q.Allots nodes)
    (refused : node ∈ nodes ∨ nodes.length = q.consumers) :
    q.assignSlot node = (q, .absent) := by
  rw [assignSlot]
  split
  · rfl
  · rename_i i found
    simp only [List.find?_range_eq_some, List.mem_range, Bool.or_eq_true, beq_iff_eq,
      Bool.not_eq_true', Bool.or_eq_false_iff, beq_eq_false_iff_ne] at found
    obtain ⟨fits, inside, before⟩ := found
    have own : (q.lane i).slot.node = node := by
      rcases fits with own | spare
      · exact own
      · have last : nodes.length ≤ i := by
          by_contra front
          exact allots.assigned_of_lt (Nat.lt_of_not_le front) spare
        rcases refused with there | full
        · obtain ⟨j, front, here⟩ := List.mem_iff_getElem.mp there
          exact absurd ((allots.node_of_lt front).trans here) (before j (by omega)).1
        · omega
    exact if_pos own

/-- Another node gets the next slot. -/
theorem Allots.assignSlot_next (allots : q.Allots nodes) (assigned : node ≠ Slot.unassigned)
    (new : node ∉ nodes) (room : nodes.length < q.consumers) :
    (q.assignSlot node).2 = .slot nodes.length ∧
      (q.assignSlot node).1.Allots (nodes ++ [node]) := by
  have spare := allots.node_of_le (Nat.le_refl _) room
  have found : ((List.range q.consumers).find? fun i =>
      (q.lane i).slot.node == node || (q.lane i).slot.node == Slot.unassigned) =
        some nodes.length := by
    simp only [List.find?_range_eq_some, List.mem_range, Bool.or_eq_true, beq_iff_eq,
      Bool.not_eq_true', Bool.or_eq_false_iff, beq_eq_false_iff_ne]
    refine ⟨.inr spare, room, fun j front => ⟨?_, allots.assigned_of_lt front⟩⟩
    rw [allots.node_of_lt front]
    exact fun same => new (same ▸ List.getElem_mem front)
  have free : (q.lane nodes.length).slot.node ≠ node := by
    rw [spare]
    exact assigned.symm
  simp only [assignSlot, found, free, ↓reduceIte, true_and]
  refine ⟨?_, ?_, ?_, ?_⟩
  · intro i inside
    rw [setLane_consumers] at inside
    by_cases here : nodes.length = i
    · subst here
      rw [lane_setLane_self inside, List.getD_eq_getElem _ _ (by simp),
        List.getElem_concat_length rfl]
    · rw [lane_setLane_other q here, allots.slots i inside]
      rcases Nat.lt_or_gt_of_ne here with behind | front
      · rw [List.getD_eq_default _ _ (Nat.le_of_lt behind), List.getD_eq_default]
        rw [List.length_append, List.length_singleton]
        omega
      · rw [List.getD_append _ _ _ _ front]
  · exact List.nodup_append.mpr ⟨allots.distinct, List.nodup_singleton node, fun a member b here =>
      (List.mem_singleton.mp here) ▸ fun same => new (same ▸ member)⟩
  · intro member
    rcases List.mem_append.mp member with before | here
    · exact allots.assigned before
    · exact assigned (List.mem_singleton.mp here).symm
  · rw [setLane_consumers, List.length_append, List.length_singleton]
    omega

/-- The nodes a producer asks slots for, each once, in the order of their first mention: consumers
on other nodes than its own. -/
def wanted (own : NodeId) (consumerNodes nodes : List NodeId) : List NodeId :=
  (nodes.filter fun node => node ≠ own ∧ node ∈ consumerNodes).eraseDups

theorem mem_wanted : node ∈ wanted own consumerNodes nodes ↔
    node ∈ nodes ∧ node ≠ own ∧ node ∈ consumerNodes := by
  rw [wanted, List.mem_eraseDups, List.mem_filter, decide_eq_true_iff]

/-- A node that is mentioned after others is one more that a slot is asked for, or none. -/
theorem wanted_concat (own : NodeId) (consumerNodes nodes : List NodeId) (node : NodeId) :
    wanted own consumerNodes (nodes ++ [node]) =
      if (node ≠ own ∧ node ∈ consumerNodes) ∧ node ∉ nodes
      then wanted own consumerNodes nodes ++ [node] else wanted own consumerNodes nodes := by
  simp only [wanted, List.filter_append, List.eraseDups_append, List.removeAll,
    List.filter_singleton, List.elem_eq_mem]
  by_cases asked : node ≠ own ∧ node ∈ consumerNodes
  · by_cases new : node ∈ nodes
    · simp [asked, new]
    · simp [asked, new, List.eraseDups_cons]
  · simp [asked]

theorem nodup_wanted (own : NodeId) (consumerNodes nodes : List NodeId) :
    (wanted own consumerNodes nodes).Nodup := by
  induction nodes using List.reverseRecOn with
  | nil => exact List.nodup_nil
  | append_singleton nodes node ih =>
    rw [wanted_concat]
    split
    · rename_i asked
      refine List.nodup_append.mpr ⟨ih, List.nodup_singleton node, fun a member b here => ?_⟩
      rw [List.mem_singleton.mp here]
      exact fun same => asked.2 (same ▸ (mem_wanted.mp member).1)
    · exact ih

/-- What a node of the distribution is mapped to, if the producer on `own` and `n` slots, and
`earlier` are the nodes before it. -/
def share (n : Nat) (own : NodeId) (consumerNodes earlier : List NodeId) (node : NodeId) :
    ConsumerMapping :=
  if node = own then .myself
  else if node ∈ consumerNodes ∧ node ∉ earlier ∧
      (wanted own consumerNodes earlier).length < n
    then .slot (wanted own consumerNodes earlier).length
  else .absent

theorem Allots.mapNode (allots : q.Allots ((wanted own consumerNodes earlier).take q.consumers))
    (assigned : node ≠ Slot.unassigned) :
    (q.mapNode own consumerNodes node).2 = share q.consumers own consumerNodes earlier node ∧
      (q.mapNode own consumerNodes node).1.Allots
        ((wanted own consumerNodes (earlier ++ [node])).take q.consumers) := by
  have length : ((wanted own consumerNodes earlier).take q.consumers).length =
      min q.consumers (wanted own consumerNodes earlier).length := List.length_take ..
  rw [wanted_concat, Queue.mapNode, share]
  by_cases mine : node = own
  · simp only [mine, ↓reduceIte, ne_eq, not_true_eq_false, false_and, true_and]
    exact mine ▸ allots
  by_cases consumer : node ∈ consumerNodes
  · simp only [mine, consumer, ↓reduceIte, true_and, ne_eq, not_false_eq_true]
    by_cases new : node ∉ earlier
    · rw [if_pos new]
      by_cases room : (wanted own consumerNodes earlier).length < q.consumers
      · have all : (wanted own consumerNodes earlier).take q.consumers =
            wanted own consumerNodes earlier := List.take_of_length_le (Nat.le_of_lt room)
        rw [all] at allots
        obtain ⟨given, after⟩ := allots.assignSlot_next assigned
          (fun member => new (mem_wanted.mp member).1) room
        have fits : (wanted own consumerNodes earlier ++ [node]).length ≤ q.consumers := by
          rw [List.length_append, List.length_singleton]
          omega
        rw [if_pos ⟨new, room⟩, List.take_of_length_le fits]
        exact ⟨given, after⟩
      · -- every slot is handed out, and what is asked for beyond them does not show
        rw [allots.assignSlot_absent (.inr (by omega)), if_neg fun fits => room fits.2,
          List.take_append_of_le_length (Nat.le_of_not_lt room)]
        exact ⟨rfl, allots⟩
    · have member : node ∈ wanted own consumerNodes earlier :=
        mem_wanted.mpr ⟨not_not.mp new, mine, consumer⟩
      have refused : node ∈ (wanted own consumerNodes earlier).take q.consumers ∨
          ((wanted own consumerNodes earlier).take q.consumers).length = q.consumers := by
        by_cases room : (wanted own consumerNodes earlier).length ≤ q.consumers
        · rw [List.take_of_length_le room]
          exact .inl member
        · exact .inr (by omega)
      rw [allots.assignSlot_absent refused, if_neg fun fits => new fits.1, if_neg new]
      exact ⟨rfl, allots⟩
  · simp only [mine, consumer, ↓reduceIte, and_false, false_and, true_and]
    exact allots

theorem wanted_length (own : NodeId) (consumerNodes nodes : List NodeId) :
    (wanted own consumerNodes nodes).length =
      (nodes.toFinset.filter fun node => node ≠ own ∧ node ∈ consumerNodes).card := by
  rw [← List.toFinset_card_of_nodup (nodup_wanted own consumerNodes nodes)]
  congr 1
  ext node
  rw [List.mem_toFinset, mem_wanted, Finset.mem_filter, List.mem_toFinset]

theorem share_eq_myself {n : Nat} :
    share n own consumerNodes earlier node = .myself ↔ node = own := by
  unfold share
  split
  · rename_i mine
    exact ⟨fun _ => mine, fun _ => rfl⟩
  · rename_i other
    split
    · exact ⟨ConsumerMapping.noConfusion, fun mine => absurd mine other⟩
    · exact ⟨ConsumerMapping.noConfusion, fun mine => absurd mine other⟩

theorem share_eq_slot {n k : Nat} :
    share n own consumerNodes earlier node = .slot k ↔
      node ≠ own ∧ node ∈ consumerNodes ∧ node ∉ earlier ∧ k < n ∧
        k = (earlier.toFinset.filter fun node => node ≠ own ∧ node ∈ consumerNodes).card := by
  rw [share, ← wanted_length]
  by_cases mine : node = own
  · rw [if_pos mine]
    exact ⟨ConsumerMapping.noConfusion, fun slot => absurd mine slot.1⟩
  rw [if_neg mine]
  by_cases asked : node ∈ consumerNodes ∧ node ∉ earlier ∧
      (wanted own consumerNodes earlier).length < n
  · rw [if_pos asked, ConsumerMapping.slot.injEq]
    constructor
    · rintro rfl
      exact ⟨mine, asked.1, asked.2.1, asked.2.2, rfl⟩
    · exact fun slot => slot.2.2.2.2.symm
  · rw [if_neg asked]
    refine ⟨ConsumerMapping.noConfusion, fun slot => absurd ?_ asked⟩
    obtain ⟨-, consumer, new, room, rfl⟩ := slot
    exact ⟨consumer, new, room⟩

theorem share_eq_absent {n : Nat} :
    share n own consumerNodes earlier node = .absent ↔
      node ≠ own ∧ ∀ k, share n own consumerNodes earlier node ≠ .slot k := by
  have mine : share n own consumerNodes earlier node = .myself ↔ node = own := share_eq_myself
  rw [ne_eq, ← mine]
  cases share n own consumerNodes earlier node with
  | myself => exact ⟨nofun, fun ⟨other, _⟩ => absurd rfl other⟩
  | slot k => exact ⟨nofun, fun ⟨_, nowhere⟩ => absurd rfl (nowhere k)⟩
  | absent => exact ⟨fun _ => ⟨nofun, nofun⟩, fun _ => rfl⟩

/-- Every node of a distribution is mapped to its share, whatever is mentioned before and behind
it. -/
theorem Allots.mapConsumers
    (allots : q.Allots ((wanted own consumerNodes earlier).take q.consumers))
    (assigned : ∀ node ∈ rest, node ≠ Slot.unassigned) :
    (q.mapConsumers own consumerNodes rest).1.Allots
        ((wanted own consumerNodes (earlier ++ rest)).take q.consumers) ∧
      (q.mapConsumers own consumerNodes rest).2.length = rest.length ∧
      ∀ j node, rest[j]? = some node → (q.mapConsumers own consumerNodes rest).2[j]? =
        some (share q.consumers own consumerNodes (earlier ++ rest.take j) node) := by
  -- on the nodes still to be mapped; the ones before are what the slots say
  induction rest generalizing q earlier with
  | nil => exact ⟨by rw [List.append_nil]; exact allots, rfl, nofun⟩
  | cons node rest ih =>
    have size : (q.mapNode own consumerNodes node).1.consumers = q.consumers :=
      congrArg Outline.slots (mapNode_outline q own consumerNodes node)
    obtain ⟨given, after⟩ := allots.mapNode (assigned node List.mem_cons_self)
    rw [← size] at after
    obtain ⟨last, length, shares⟩ :=
      ih after fun other member => assigned other (List.mem_cons_of_mem node member)
    rw [size, List.append_assoc, List.singleton_append] at last
    rw [mapConsumers_cons]
    refine ⟨last, congrArg (· + 1) length, ?_⟩
    intro j other here
    cases j with
    | zero =>
      obtain rfl : node = other := Option.some_inj.mp here
      rw [List.take_zero, List.append_nil]
      exact congrArg some given
    | succ j =>
      have later := shares j other here
      rw [size, List.append_assoc, List.singleton_append] at later
      exact later

theorem wanted_prefix (own : NodeId) (consumerNodes nodes more : List NodeId) :
    wanted own consumerNodes nodes <+: wanted own consumerNodes (nodes ++ more) := by
  rw [wanted, wanted, List.filter_append, List.eraseDups_append]
  exact List.prefix_append ..

/-- Each slot that is handed out was the share of one of the nodes. -/
theorem exists_share {n k : Nat} (wants : k < (wanted own consumerNodes nodes).length)
    (room : k < n) :
    ∃ j node, nodes[j]? = some node ∧
      share n own consumerNodes (nodes.take j) node = .slot k := by
  induction nodes using List.reverseRecOn with
  | nil => exact absurd wants (Nat.not_lt_zero k)
  | append_singleton nodes last ih =>
    have before (wants : k < (wanted own consumerNodes nodes).length) :
        ∃ j node, (nodes ++ [last])[j]? = some node ∧
          share n own consumerNodes ((nodes ++ [last]).take j) node = .slot k := by
      obtain ⟨j, node, here, mapped⟩ := ih wants
      obtain ⟨inside, -⟩ := List.getElem?_eq_some_iff.mp here
      refine ⟨j, node, (List.getElem?_append_left inside).trans here, ?_⟩
      rw [List.take_append_of_le_length (Nat.le_of_lt inside)]
      exact mapped
    rw [wanted_concat] at wants
    split at wants
    · rename_i asked
      rw [List.length_append, List.length_singleton] at wants
      by_cases same : k = (wanted own consumerNodes nodes).length
      · refine ⟨nodes.length, last, List.getElem?_concat_length, ?_⟩
        rw [List.take_left, share, if_neg asked.1.1, if_pos ⟨asked.1.2, asked.2, same ▸ room⟩, same]
      · exact before (by omega)
    · exact before wants

/-- The slot that a node is mapped to carries that node. -/
theorem Allots.node_of_share (allots : q.Allots ((wanted own consumerNodes nodes).take q.consumers))
    {j k : Nat} (here : nodes[j]? = some node)
    (mapped : share q.consumers own consumerNodes (nodes.take j) node = .slot k) :
    k < q.consumers ∧ (q.lane k).slot.node = node := by
  unfold share at mapped
  split at mapped
  · cases mapped
  · rename_i other
    split at mapped
    · rename_i asked
      obtain ⟨consumer, new, room⟩ := asked
      obtain rfl := ConsumerMapping.slot.inj mapped
      refine ⟨room, ?_⟩
      obtain ⟨inside, same⟩ := List.getElem?_eq_some_iff.mp here
      have upto : nodes.take (j + 1) = nodes.take j ++ [node] := by
        rw [List.take_succ_eq_append_getElem inside, same]
      have next : wanted own consumerNodes (nodes.take (j + 1)) =
          wanted own consumerNodes (nodes.take j) ++ [node] := by
        rw [upto, wanted_concat, if_pos ⟨⟨other, consumer⟩, new⟩]
      have front := wanted_prefix own consumerNodes (nodes.take (j + 1)) (nodes.drop (j + 1))
      rw [List.take_append_drop, next] at front
      obtain ⟨behind, all⟩ := front
      rw [allots.slots _ room, List.getD_eq_getElem?_getD, List.getElem?_take_of_lt room, ← all,
        List.append_assoc, List.getElem?_append_right (Nat.le_refl _), Nat.sub_self]
      rfl
    · cases mapped

end Assigning

section Handing

/-- A slot is handed out only if nobody has it, and only to a node that is one. -/
theorem assignSlot_cases (q : Queue) (node : NodeId) :
    q.assignSlot node = (q, .absent) ∨
      ∃ i, i < q.consumers ∧ (q.lane i).slot.node = Slot.unassigned ∧ node ≠ Slot.unassigned ∧
        q.assignSlot node =
          (q.setLane i { q.lane i with slot := { (q.lane i).slot with node } }, .slot i) := by
  rw [assignSlot]
  split
  · exact .inl rfl
  · rename_i i found
    have inside : i < q.consumers := List.mem_range.mp (List.mem_of_find?_eq_some found)
    have fits := List.find?_some found
    rw [Bool.or_eq_true, beq_iff_eq, beq_iff_eq] at fits
    by_cases own : (q.lane i).slot.node = node
    · exact .inl (if_pos own)
    · have spare := fits.resolve_left own
      refine .inr ⟨i, inside, spare, fun same => own (spare.trans same.symm), ?_⟩
      exact if_neg own

theorem mapNode_cases (q : Queue) (own : NodeId) (consumerNodes : List NodeId) (node : NodeId) :
    (q.mapNode own consumerNodes node).1 = q ∧
        (∀ k, (q.mapNode own consumerNodes node).2 ≠ .slot k) ∨
      ∃ i, i < q.consumers ∧ (q.lane i).slot.node = Slot.unassigned ∧ node ≠ Slot.unassigned ∧
        q.mapNode own consumerNodes node =
          (q.setLane i { q.lane i with slot := { (q.lane i).slot with node } }, .slot i) := by
  rw [mapNode]
  split
  · exact .inl ⟨rfl, fun _ => ConsumerMapping.noConfusion⟩
  · split
    · rcases q.assignSlot_cases node with none | given
      · rw [none]
        exact .inl ⟨rfl, fun _ => ConsumerMapping.noConfusion⟩
      · exact .inr given
    · exact .inl ⟨rfl, fun _ => ConsumerMapping.noConfusion⟩

/-- A slot whose node changed while a distribution was mapped is one that a node was mapped to, and
it carries this node; such a node is not the one that stands for none. -/
theorem mapConsumers_hands (q : Queue) (own : NodeId) (consumerNodes nodes : List NodeId) :
    (∀ k, k < q.consumers →
      ((q.mapConsumers own consumerNodes nodes).1.lane k).slot.node = (q.lane k).slot.node ∨
        (q.lane k).slot.node = Slot.unassigned ∧
          ∃ j : Nat, (q.mapConsumers own consumerNodes nodes).2[j]? = some (.slot k) ∧
            nodes[j]? =
              some ((q.mapConsumers own consumerNodes nodes).1.lane k).slot.node) ∧
      ∀ j k : Nat, (q.mapConsumers own consumerNodes nodes).2[j]? = some (.slot k) →
        ∃ node, nodes[j]? = some node ∧ node ≠ Slot.unassigned := by
  induction nodes generalizing q with
  | nil => exact ⟨fun _ _ => .inl rfl, nofun⟩
  | cons node rest ih =>
    have size : (q.mapNode own consumerNodes node).1.consumers = q.consumers :=
      congrArg Outline.slots (mapNode_outline q own consumerNodes node)
    obtain ⟨handed, named⟩ := ih (q.mapNode own consumerNodes node).1
    rw [mapConsumers_cons]
    rcases q.mapNode_cases own consumerNodes node with
      ⟨same, none⟩ | ⟨i, inside, spare, assigned, made⟩
    · refine ⟨fun k fits => ?_, fun j k mapped => ?_⟩
      · rw [same] at handed ⊢
        rcases handed k fits with kept | ⟨spare, j, mapped, here⟩
        · exact .inl kept
        · exact .inr ⟨spare, j + 1, mapped, here⟩
      · cases j with
        | zero => exact absurd (Option.some_inj.mp mapped) (none k)
        | succ j => exact named j k mapped
    · rw [made] at handed named ⊢
      refine ⟨fun k fits => ?_, fun j k mapped => ?_⟩
      · have later := handed k (by rw [setLane_consumers]; exact fits)
        by_cases own : i = k
        · subst own
          rw [lane_setLane_self inside] at later
          rcases later with kept | ⟨unassigned, -⟩
          · exact .inr ⟨spare, 0, rfl, congrArg some kept.symm⟩
          · exact absurd unassigned assigned
        · rw [lane_setLane_other q own] at later
          rcases later with kept | ⟨spare, j, mapped, here⟩
          · exact .inl kept
          · exact .inr ⟨spare, j + 1, mapped, here⟩
      · cases j with
        | zero => exact ⟨node, rfl, assigned⟩
        | succ j => exact named j k mapped

theorem bindProducer_hands (q : Queue) (session : Session) (consumerNodes nodes : List NodeId) :
    (∀ k, k < q.consumers →
      ((q.bindProducer session consumerNodes nodes).1.lane k).slot.node = (q.lane k).slot.node ∨
        (q.lane k).slot.node = Slot.unassigned ∧
          ∃ j : Nat, (q.bindProducer session consumerNodes nodes).2[j]? = some (.slot k) ∧
            nodes[j]? =
              some ((q.bindProducer session consumerNodes nodes).1.lane k).slot.node) ∧
      ∀ j k : Nat, (q.bindProducer session consumerNodes nodes).2[j]? = some (.slot k) →
        ∃ node, nodes[j]? = some node ∧ node ≠ Slot.unassigned := by
  let taken : Queue := { q with
    entry := { q.entry with producerPid := session.pid, producerNode := session.node } }
  exact mapConsumers_hands (taken.onProducerLatch (·.own session.pid)) session.node consumerNodes
    nodes

end Handing

/-- A producer that binds to a queue of which no slot was handed out maps every node of its
distribution to its share. -/
theorem bindProducer_allots
    (vacant : ∀ i, i < q.consumers → (q.lane i).slot.node = Slot.unassigned)
    (session : Session) (consumerNodes : List NodeId)
    (assigned : ∀ node ∈ nodes, node ≠ Slot.unassigned) :
    (q.bindProducer session consumerNodes nodes).1.Allots
        ((wanted session.node consumerNodes nodes).take q.consumers) ∧
      (q.bindProducer session consumerNodes nodes).2.length = nodes.length ∧
      ∀ j node, nodes[j]? = some node → (q.bindProducer session consumerNodes nodes).2[j]? =
        some (share q.consumers session.node consumerNodes (nodes.take j) node) := by
  let taken : Queue := { q with
    entry := { q.entry with producerPid := session.pid, producerNode := session.node } }
  have nobody : (wanted session.node consumerNodes []).take q.consumers = [] := List.take_nil
  have none : (taken.onProducerLatch (·.own session.pid)).Allots
      ((wanted session.node consumerNodes []).take q.consumers) := by
    rw [nobody]
    exact ⟨vacant, List.nodup_nil, List.not_mem_nil, Nat.zero_le _⟩
  obtain ⟨allots, length, shares⟩ := none.mapConsumers assigned
  exact ⟨⟨allots.slots, allots.distinct, allots.assigned, allots.few⟩, length, shares⟩

end Queue

end RecordExchange
