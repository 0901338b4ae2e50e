import RecordExchange.Segment.Queue

set_option autoImplicit false

/-!
The listing of live queues: a line per queue and a line per slot.
-/

namespace RecordExchange

def Slot.listing (s : Slot) (index : Nat) : String :=
  s!"  [{index}] node={s.node} pid={s.pid} status={s.status.render} " ++
  s!"tuples={s.ring.count.render} free={s.ring.free}/{s.ring.capacity} " ++
  s!"read={s.ring.read} write={s.ring.write} writes={s.traffic.writes} " ++
  s!"reads={s.traffic.reads} overflow={s.traffic.overflowWrites}\n"

namespace Queue

def listing (q : Queue) : String :=
  s!"{q.entry.name} producer={q.entry.producerNode}/{q.entry.producerPid} " ++
  s!"sync_block={q.entry.block} refcount={q.entry.references} paused={q.entry.paused}\n" ++
  String.join ((List.range q.consumers).map fun i => (q.lane i).slot.listing i)

end Queue

end RecordExchange
