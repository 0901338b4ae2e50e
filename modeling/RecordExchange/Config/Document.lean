import RecordExchange.Config
import RecordExchange.Text.Utf8
import RecordExchange.Toml.Document
import RecordExchange.Word

set_option autoImplicit false

/-!
Settings as a TOML document: one key per setting, in a fixed order; a document may leave out any of
them, and may hold others, which do not count.
-/

namespace RecordExchange.Config

def textOr (t : Toml.Table) (key : String) (otherwise : String) : Option String :=
  match t.lookup key with
  | none => some otherwise
  | some (.value (.string s)) => some s
  | some _ => none

/-- The number under a key, which must not be negative nor above `most`, or what holds if the key
is missing. -/
def numberOr (t : Toml.Table) (key : String) (most : Nat) (otherwise : Nat) : Option Nat :=
  match t.lookup key with
  | none => some otherwise
  | some (.value (.integer n)) => if 0 ≤ n ∧ n ≤ most then some n.toNat else none
  | some _ => none

def ofTable? (t : Toml.Table) : Option Config := do
  let word := Word.values64 - 1
  return {
    dataDir := ← textOr t "data_dir" default.dataDir
    segmentName := ← textOr t "segment_name" default.segmentName
    maxQueues := ← numberOr t "max_queues" word default.maxQueues
    queueSize := ← numberOr t "queue_size" word default.queueSize
    maxConsumers := ← numberOr t "max_consumers" word default.maxConsumers
    connectTimeoutMs := ← numberOr t "connect_timeout_ms" word default.connectTimeoutMs
    raceRetryLimit := ← numberOr t "race_retry_limit" (Word.values32 - 1) default.raceRetryLimit
    raceRetryDelayMs := ← numberOr t "race_retry_delay_ms" word default.raceRetryDelayMs
    overflowMemoryLimit := ← numberOr t "overflow_memory_limit" word default.overflowMemoryLimit }

def toDocument (c : Config) : String :=
  Toml.writeLine "data_dir" (Toml.writeText c.dataDir) ++
  Toml.writeLine "segment_name" (Toml.writeText c.segmentName) ++
  Toml.writeLine "max_queues" (toString c.maxQueues) ++
  Toml.writeLine "queue_size" (toString c.queueSize) ++
  Toml.writeLine "max_consumers" (toString c.maxConsumers) ++
  Toml.writeLine "connect_timeout_ms" (toString c.connectTimeoutMs) ++
  Toml.writeLine "race_retry_limit" (toString c.raceRetryLimit) ++
  Toml.writeLine "race_retry_delay_ms" (toString c.raceRetryDelayMs) ++
  Toml.writeLine "overflow_memory_limit" (toString c.overflowMemoryLimit)

inductive File where
  | missing
  | directory
  | content (bytes : List UInt8)

/-- Settings read from a file, and the text to leave in the file if there was none: the one that
says what holds without it. -/
def load (file : File) : Except Error Config × Option String :=
  match file with
  | .missing => (default.validate, some default.toDocument)
  | .directory => (.error (.config .unreadable), none)
  | .content bytes =>
    match Text.ofUtf8? bytes with
    | none => (.error (.config .unreadable), none)
    | some text =>
      match (Toml.readDocument text).bind ofTable? with
      | none => (.error (.config .badToml), none)
      | some c => (c.validate, none)

end RecordExchange.Config
