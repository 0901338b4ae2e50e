import RecordExchange.Error

set_option autoImplicit false

/-!
The settings of a segment and of the processes that use it.

Queue count, queue size and consumer count are fixed by whoever creates the segment; a process that
attaches later reads them from the segment and takes only the timings from its own settings.
-/

namespace RecordExchange

structure Config where
  /-- Directory the link file lies in. -/
  dataDir : String
  /-- Name of the link file, and of the segment. -/
  segmentName : String
  maxQueues : Nat
  /-- Bytes of one registry entry, header and buffers together. -/
  queueSize : Nat
  maxConsumers : Nat
  /-- How long an unbinding producer waits for consumers that never attached. -/
  connectTimeoutMs : Nat
  /-- How often a queue left over by an earlier execution is looked at. -/
  raceRetryLimit : Nat
  raceRetryDelayMs : Nat
  /-- Bytes of overflow a producer keeps in memory per consumer. -/
  overflowMemoryLimit : Nat
  deriving DecidableEq, Repr, Inhabited

namespace Config

def default : Config where
  dataDir := "/tmp"
  segmentName := "squeue"
  maxQueues := 64
  queueSize := 64 * 1024
  maxConsumers := 15
  connectTimeoutMs := 10000
  raceRetryLimit := 10
  raceRetryDelayMs := 1000
  overflowMemoryLimit := 4 * 1024 * 1024

def wholeMilliseconds (micros : Nat) : Nat := micros / 1000

def fault? (c : Config) : Option SettingFault :=
  if c.maxQueues = 0 then some .noQueues
  else if c.maxConsumers = 0 then some .noConsumers
  else if c.queueSize = 0 then some .noQueueBytes
  else if c.segmentName.isEmpty then some .noSegmentName
  else none

def validate (c : Config) : Except Error Config :=
  match c.fault? with
  | some fault => .error (.invalidConfig fault)
  | none => .ok c

/-- `name` seen from `dir`: an absolute name stands for itself, and no slash is doubled. -/
def joinPath (dir name : String) : String :=
  if name.startsWith "/" || dir.isEmpty then name
  else if dir.endsWith "/" then dir ++ name
  else dir ++ "/" ++ name

def linkPath (c : Config) : String := joinPath c.dataDir c.segmentName

end Config

end RecordExchange
