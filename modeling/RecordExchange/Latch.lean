import RecordExchange.Error

set_option autoImplicit false

/-!
Latches, on which a process sleeps until another one signals, and what ends a sleep early.
-/

namespace RecordExchange

structure Session where
  pid : ProcessId
  node : NodeId
  deriving DecidableEq, Repr, Inhabited

/-- A signal that stays until it is cleared, and the process that waits for it; zero for none. -/
structure Latch where
  isSet : Bool
  owner : ProcessId
  deriving DecidableEq, Repr, Inhabited

namespace Latch

def idle : Latch := ⟨false, 0⟩

def set (l : Latch) : Latch := { l with isSet := true }

def reset (l : Latch) : Latch := { l with isSet := false }

def own (l : Latch) (pid : ProcessId) : Latch := { l with owner := pid }

def disown (l : Latch) : Latch := { l with owner := 0 }

end Latch

/-- What a process knows about the conditions under which it gives up any wait: whether it was
asked to stop, and whether the owner of the segment still runs. -/
structure Liveness where
  interrupted : Bool
  owner : ProcessId
  ownerAlive : Bool
  deriving DecidableEq, Repr, Inhabited

/-- The reason to give up, the request to stop first. -/
def Liveness.check (l : Liveness) : Except Error Unit :=
  if l.interrupted then .error .interrupted
  else if !l.ownerAlive then .error (.hostDied l.owner)
  else .ok ()

/-- How a wait came to its end, or that it has not. -/
inductive WaitState where
  | woken
  | timedOut
  | asleep
  | failed (cause : Error)
  deriving DecidableEq, Repr

/-- A wait begins by looking for a reason to give up, then at the time it has, and only then at the
latch; so a wait of no time at all never sees a signal. -/
def Latch.beginWait (l : Latch) (timeoutMs : Option Nat) (live : Liveness) : WaitState :=
  match live.check with
  | .error cause => .failed cause
  | .ok () =>
    if timeoutMs = some 0 then .timedOut
    else if l.isSet then .woken
    else .asleep

/-- A sleeper notices the signal before any reason to give up. -/
def Latch.keepWaiting (l : Latch) (live : Liveness) : WaitState :=
  if l.isSet then .woken
  else match live.check with
    | .error cause => .failed cause
    | .ok () => .asleep

end RecordExchange
