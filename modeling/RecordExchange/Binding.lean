import RecordExchange.Consumer
import RecordExchange.Producer
import RecordExchange.Registry

set_option autoImplicit false

/-!
Binding: a process that claimed a queue takes up its role.

Who comes first is the producer, and hands out the consumer slots to the nodes its rows go to. All
others are consumers, each on the slot its node was given.
-/

namespace RecordExchange

inductive Binding where
  | producer (p : Producer)
  | consumer (c : Consumer)

namespace Queue

/-- Gives a node the first slot nobody has. A node that has a slot already, or that no slot is left
for, gets none. -/
def assignSlot (q : Queue) (node : NodeId) : Queue × ConsumerMapping :=
  match (List.range q.consumers).find? fun i =>
      (q.lane i).slot.node == node || (q.lane i).slot.node == Slot.unassigned with
  | none => (q, .absent)
  | some i =>
    let l := q.lane i
    if l.slot.node = node then (q, .absent)
    else (q.setLane i { l with slot := { l.slot with node } }, .slot i)

def mapConsumers (q : Queue) (own : NodeId) (consumerNodes : List NodeId) :
    List NodeId → Queue × List ConsumerMapping
  | [] => (q, [])
  | node :: rest =>
    let (q, mapping) :=
      if node = own then (q, .myself)
      else if node ∈ consumerNodes then q.assignSlot node
      else (q, .absent)
    let (q, mappings) := q.mapConsumers own consumerNodes rest
    (q, mapping :: mappings)

def bindProducer (q : Queue) (session : Session) (consumerNodes distribution : List NodeId) :
    Queue × List ConsumerMapping :=
  let q := { q with
    entry := { q.entry with producerPid := session.pid, producerNode := session.node } }
  let (q, mapping) :=
    (q.onProducerLatch (·.own session.pid)).mapConsumers session.node consumerNodes distribution
  (q.addReference, mapping)

/-- Takes up a consumer's role on the slot the node was given. A slot that failed or closed before
anybody attached is closed for good, so that the producer need not wait for it. -/
def bindConsumer (q : Queue) (session : Session) (name : String) : Queue × Except Error Nat :=
  match q.slotOf? session.node with
  | none => (q, .error (.notAConsumer name session.node))
  | some i =>
    let l := q.lane i
    if l.slot.pid ≠ 0 then (q, .error (.alreadyBound name i l.slot.pid))
    else if l.slot.status = .error ∨ l.slot.status = .done then
      ((q.setLane i (l.withStatus .done)).wakeProducer,
        .error (.producerFailed name i l.slot.status))
    else
      (q.setLane i
        { slot := { l.slot with pid := session.pid }, latch := l.latch.own session.pid }, .ok i)

end Queue

def Segment.bind (s : Segment) (g : Geometry) (live : Liveness) (session : Session)
    (name : String) (consumerNodes distribution : List NodeId) :
    Segment × Except Error Binding :=
  match live.check with
  | .error cause => (s, .error cause)
  | .ok () =>
    match s.find? g.maxQueues name with
    | none => (s, .error (.notFound name))
    | some index =>
      let h := s.handleAt index
      let q := s.queue h
      if q.entry.producerPid = 0 then
        let (q, mapping) := q.bindProducer session consumerNodes distribution
        (s.setQueue h q, .ok (.producer (Producer.start h session mapping q.consumers)))
      else
        match q.bindConsumer session name with
        | (q, .error cause) => (s.setQueue h q, .error cause)
        | (q, .ok i) => (s.setQueue h q, .ok (.consumer ⟨h, session, i, false⟩))

end RecordExchange
