import RecordExchange.SlotStatus
import RecordExchange.Text.Quoted

set_option autoImplicit false

/-!
What can go wrong with a shared queue, and the sentence each failure is reported with.
-/

namespace RecordExchange

/-- A process, by its number; zero stands for none. -/
abbrev ProcessId := Nat

/-- A node of the cluster, by its number. -/
abbrev NodeId := Int

inductive PathFault where
  /-- Nothing goes by a name on the path. -/
  | missing
  /-- A file stands where the path goes on. -/
  | notDirectory
  /-- A directory stands where the file should. -/
  | isDirectory
  /-- A name, or the whole path, is longer than the system allows. -/
  | nameTooLong
  /-- The path holds a NUL, at which it would end. -/
  | holdsNul
  deriving DecidableEq, Repr

/-- Why what a link file holds leads to no segment. -/
inductive SegmentNameFault where
  /-- No segment has the name. -/
  | missing
  /-- No segment can have such a name. -/
  | refused
  /-- The name is longer than the system allows. -/
  | tooLong
  deriving DecidableEq, Repr

inductive MappingFault where
  /-- The link file cannot be opened. -/
  | linkNotOpened (cause : PathFault)
  /-- The link path is a directory. -/
  | linkIsDirectory
  /-- The link file cannot be made. -/
  | linkNotCreated (cause : PathFault)
  /-- The link file leads to no segment. -/
  | segmentNotOpened (cause : SegmentNameFault)
  deriving DecidableEq, Repr

inductive DocumentFault where
  /-- The text is no TOML, or a value has the wrong type or is out of range. -/
  | badToml
  /-- The file cannot be read, or is no UTF-8 text. -/
  | unreadable
  deriving DecidableEq, Repr

inductive SettingFault where
  | noQueues
  | noConsumers
  | noQueueBytes
  | noSegmentName
  deriving DecidableEq, Repr

inductive Error where
  | sharedMemory (fault : MappingFault)
  | config (fault : DocumentFault)
  | invalidConfig (fault : SettingFault)
  | badSegment (path : String)
  | registryFull (maxQueues : Nat)
  | noFreeSyncBlock (queue : String)
  | nameTooLong (name : String) (max : Nat)
  | invalidConsumerCount (count max : Nat)
  | segmentTooSmall (queueSize consumers : Nat)
  | notFound (queue : String)
  | raceUnresolved (queue : String) (tries : Nat)
  | producerFailed (queue : String) (slot : Nat) (status : SlotStatus)
  | alreadyBound (queue : String) (slot : Nat) (pid : ProcessId)
  | notAConsumer (queue : String) (node : NodeId)
  | slotClosed (queue : String) (slot : Nat)
  | recordTooLarge (length max : Nat)
  | invalidConsumerIndex (queue : String) (slot consumers : Nat)
  | longRecordMismatch (expected actual : Nat)
  | interrupted
  | hostDied (pid : ProcessId)
  /-- What the program asserts does not hold, or its arithmetic left the 64-bit words. -/
  | panicked
  deriving DecidableEq, Repr

def PathFault.message : PathFault → String
  | .missing => "No such file or directory (os error 2)"
  | .notDirectory => "Not a directory (os error 20)"
  | .isDirectory => "Is a directory (os error 21)"
  | .nameTooLong => "File name too long (os error 36)"
  | .holdsNul => "file name contained an unexpected NUL byte"

def SegmentNameFault.code : SegmentNameFault → Nat
  | .missing => 2
  | .refused => 22
  | .tooLong => 36

def MappingFault.message : MappingFault → String
  | .linkNotOpened cause => s!"Opening the link file failed, {cause.message}"
  | .linkIsDirectory => s!"Reading the link file failed, {PathFault.isDirectory.message}"
  | .linkNotCreated cause => s!"Creating the link file failed, {cause.message}"
  | .segmentNotOpened cause => s!"Opening the shared memory failed, os error {cause.code}"

def DocumentFault.message : DocumentFault → String
  | .badToml => "Bad TOML data"
  | .unreadable => "Failed to read configuration file"

def SettingFault.message : SettingFault → String
  | .noQueues => "max_queues must be positive"
  | .noConsumers => "max_consumers must be positive"
  | .noQueueBytes => "queue_size must be positive"
  | .noSegmentName => "segment_name must not be empty"

def Error.message : Error → String
  | .sharedMemory fault => s!"shared memory error: {fault.message}"
  | .config fault => s!"configuration error: {fault.message}"
  | .invalidConfig fault => s!"invalid configuration: {fault.message}"
  | .badSegment path => s!"{path} is not a shared queue segment"
  | .registryFull maxQueues =>
    s!"out of shared queues, please increase max_queues (currently {maxQueues})"
  | .noFreeSyncBlock queue => s!"no free synchronization block for shared queue {queue}"
  | .nameTooLong name max =>
    s!"shared queue name {Text.quoted name} is longer than {max} bytes"
  | .invalidConsumerCount count max =>
    s!"invalid consumer count {count}, must be between 1 and {max}"
  | .segmentTooSmall queueSize consumers =>
    s!"queue size {queueSize} leaves no room for {consumers} consumer buffers"
  | .notFound queue => s!"shared queue {queue} not found"
  | .raceUnresolved queue tries =>
    s!"couldn't resolve shared queue {queue} race condition after {tries} tries"
  | .producerFailed queue slot status =>
    s!"producer of shared queue {queue} failed, consumer {slot} status was {status.render}"
  | .alreadyBound queue slot pid =>
    s!"consumer {slot} of shared queue {queue} is already bound to pid {pid}"
  | .notAConsumer queue node => s!"node {node} has no consumer slot in shared queue {queue}"
  | .slotClosed queue slot => s!"consumer {slot} of shared queue {queue} is already done"
  | .recordTooLarge length max => s!"record of {length} bytes exceeds the {max} byte limit"
  | .invalidConsumerIndex queue slot consumers =>
    s!"consumer {slot} out of range, shared queue {queue} has {consumers}"
  | .longRecordMismatch expected actual =>
    s!"long record out of sequence: expected {expected} bytes, got {actual}"
  | .interrupted => "wait interrupted by shutdown request"
  | .hostDied pid => s!"segment owner process {pid} has exited"
  | .panicked => "panicked"

end RecordExchange
