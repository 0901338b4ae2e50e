import RecordExchange.Command.Run

set_option autoImplicit false

/-!
The command line: reads the file of settings and the input, runs one command on a host on which no
segment was made yet, and prints what the command leaves behind.
-/

namespace RecordExchange

def readSettings (path : String) : IO Config.File := do
  try
    return .content (← IO.FS.readBinFile path).toList
  catch
    | .noFileOrDirectory _ _ _ => return .missing
    | _ => return .directory

/-- Leaves a text in the file of settings, together with the directories it lies in. -/
def leaveSettings (path text : String) : IO Unit := do
  let directory := String.ofList (path.toList.reverse.dropWhile (· ≠ '/')).reverse
  unless directory.isEmpty do IO.FS.createDirAll directory
  IO.FS.writeFile path text

/-- Reads the input to its end. -/
partial def readInput (input : IO.FS.Stream) (before : List UInt8) : IO (List UInt8) := do
  let bytes ← input.read 65536
  if bytes.isEmpty then return before else readInput input (before ++ bytes.toList)

def inputOf : Command.Request → IO (List UInt8)
  | .run _ (.produce ..) => do readInput (← IO.getStdin) []
  | _ => return []

def settingsOf : Command.Request → IO Config.File
  | .run file _ => readSettings file
  | _ => return .missing

def commandPid : ProcessId := 2

def runArguments (args : List String) : IO UInt32 := do
  let request := Command.request args
  let site : Site := ⟨Host.start [commandPid] "", []⟩
  let (_, outcome, left) :=
    Command.run site commandPid args (← settingsOf request) (← inputOf request)
  if let (.run file _, some text) := (request, left) then leaveSettings file text
  let output ← IO.getStdout
  output.write ⟨outcome.output.toArray⟩
  output.flush
  if let some failure := outcome.failure then IO.eprintln s!"Error: {failure.message}"
  if let some text := outcome.summary then IO.eprintln text
  return outcome.exit.toUInt32

end RecordExchange

def main (args : List String) : IO UInt32 := RecordExchange.runArguments args
