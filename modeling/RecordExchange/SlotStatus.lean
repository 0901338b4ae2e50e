set_option autoImplicit false

/-!
The life of a consumer slot: it is active until its producer ends or fails or its consumer leaves,
and done once nobody will read from it again.
-/

namespace RecordExchange

/-- Where a slot stands between its producer and its consumer. -/
inductive SlotStatus where
  /-- Both sides are at work. -/
  | active
  /-- The producer has sent everything; the consumer may still have rows to read. -/
  | eof
  /-- The producer failed; the consumer has not noticed yet. -/
  | error
  /-- Nobody will read from the slot any more. -/
  | done
  deriving DecidableEq, Repr, Inhabited

namespace SlotStatus

def render : SlotStatus → String
  | .active => "active"
  | .eof => "eof"
  | .error => "error"
  | .done => "done"

def toWord : SlotStatus → Nat
  | .active => 0
  | .eof => 1
  | .error => 2
  | .done => 3

end SlotStatus

end RecordExchange
