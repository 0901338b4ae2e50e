import RecordExchange.Error
import RecordExchange.Word

set_option autoImplicit false

/-!
The arguments of the command line.

Options of the program stand in front of the command, options of a command behind it, mixed with
its operands. An option's value stands behind an equals sign or is the next argument, if that is an
operand; an option without a value is noted as such. Everything behind a double hyphen is an
operand.

An unknown option, an operand too many and a call for help end the reading where they stand. Only
afterwards the values are looked at: first those of the command, then those of the program.
-/

namespace RecordExchange.Command

/-- What the program is asked to do on a queue or a segment. -/
inductive Task where
  /-- Create the segment and hold it. -/
  | serve
  /-- Send the lines of the input to the consumers of a queue in turn. -/
  | produce (queue : String) (node : NodeId) (consumers : List NodeId) (drainTimeoutMs : Nat)
  /-- Print the records a queue holds for a node. -/
  | consume (queue : String) (node : NodeId) (consumers : Nat)
  /-- Show one queue, or all. -/
  | inspect (queue : Option String)
  /-- Print the settings. -/
  | config
  deriving DecidableEq, Repr

inductive Request where
  /-- A task under the settings in a file. -/
  | run (file : String) (task : Task)
  | version
  | help
  /-- The arguments make no sense. -/
  | misuse
  deriving DecidableEq, Repr

inductive Argument where
  | operand (text : String)
  /-- The double hyphen, behind which everything is an operand. -/
  | divider
  /-- A long option, with the value behind its equals sign if it has one. -/
  | long (name : String) (value : Option String)
  /-- Short options behind one hyphen. -/
  | short (letters : List Char)
  deriving DecidableEq, Repr

namespace Argument

/-- What kind of argument a text is. A lone hyphen is an operand. -/
def ofString (s : String) : Argument :=
  match s.toList with
  | ['-', '-'] => .divider
  | '-' :: '-' :: rest =>
    let name := String.ofList (rest.takeWhile (· ≠ '='))
    match rest.dropWhile (· ≠ '=') with
    | _ :: value => .long name (some (String.ofList value))
    | [] => .long name none
  | '-' :: c :: rest => .short (c :: rest)
  | _ => .operand s

end Argument

def digits? (cs : List Char) : Option Nat :=
  if !cs.isEmpty && cs.all Char.isDigit then
    some (cs.foldl (fun n c => n * 10 + (c.toNat - '0'.toNat)) 0)
  else none

def count? (most : Nat) (s : String) : Option Nat :=
  let cs := match s.toList with
    | '+' :: rest => rest
    | cs => cs
  (digits? cs).bind fun n => if n ≤ most then some n else none

def node? (s : String) : Option NodeId :=
  let signed : Option Int := match s.toList with
    | '-' :: rest => (digits? rest).map fun n => -(n : Int)
    | '+' :: rest => (digits? rest).map Int.ofNat
    | cs => (digits? cs).map Int.ofNat
  signed.bind fun n => if -0x80000000 ≤ n ∧ n < 0x80000000 then some n else none

/-- What an option was given each time it stood in the arguments: a value or none. -/
abbrev Occurrences := List (Option String)

/-- The operands and the options of a command, in the order they were given. -/
structure Given where
  operands : List String
  options : List (String × Option String)
  deriving DecidableEq, Repr

namespace Given

def occurrences (g : Given) (option : String) : Occurrences :=
  (g.options.filter fun given => given.1 == option).map (·.2)

def addOperand (g : Given) (text : String) : Given := { g with operands := g.operands ++ [text] }

def addOption (g : Given) (option : String) (value : Option String) : Given :=
  { g with options := g.options ++ [(option, value)] }

def settle (g : Given) : Option String → Given
  | none => g
  | some option => g.addOption option none

end Given

/-- The value of an option that may be given once, and then with a value, read by `read`. -/
def single? {α : Type} (given : Occurrences) (read : String → Option α) (otherwise : Option α) :
    Option α :=
  match given with
  | [] => otherwise
  | [some value] => read value
  | _ => none

/-- The values of an option that may be repeated, read by `read`. At least one has to be there. -/
def several? {α : Type} (given : Occurrences) (read : String → Option α) : Option (List α) :=
  match given.filterMap id with
  | [] => none
  | values => values.mapM read

inductive Parsed where
  | given (g : Given)
  | help
  | misuse
  deriving DecidableEq, Repr

/-- Sorts the arguments of a command into operands and options, `waiting` being the option whose
value may come next. -/
def parse (known : List String) (operands : Nat) : Given → Option String → List String → Parsed
  | g, waiting, [] => .given (g.settle waiting)
  | g, waiting, arg :: rest =>
    match waiting, Argument.ofString arg with
    | some option, .operand value =>
      parse known operands (g.addOption option (some value)) none rest
    | waiting, argument =>
      let g := g.settle waiting
      match argument with
      | .operand text =>
        if g.operands.length < operands then parse known operands (g.addOperand text) none rest
        else .misuse
      | .divider =>
        if g.operands.length + rest.length ≤ operands then
          .given { g with operands := g.operands ++ rest }
        else .misuse
      | .short letters => if letters.head? = some 'h' then .help else .misuse
      | .long "help" none => .help
      | .long option none =>
        if known.contains option then parse known operands g (some option) rest else .misuse
      | .long option (some value) =>
        if known.contains option then
          parse known operands (g.addOption option (some value)) none rest
        else .misuse

def task? (command : String) (g : Given) : Option Task :=
  match command, g.operands with
  | "serve", [] => some .serve
  | "config", [] => some .config
  | "inspect", [] => some (.inspect none)
  | "inspect", [queue] => some (.inspect (some queue))
  | "produce", [queue] => do
    let node ← single? (g.occurrences "node") node? (some 0)
    let consumers ← several? (g.occurrences "consumer") node?
    let timeout ←
      single? (g.occurrences "drain-timeout-ms") (count? (Word.values64 - 1)) (some 1000)
    some (.produce queue node consumers timeout)
  | "consume", [queue] => do
    let node ← single? (g.occurrences "node") node? none
    let consumers ← single? (g.occurrences "consumers") (count? (Word.values64 - 1)) (some 1)
    some (.consume queue node consumers)
  | _, _ => none

/-- The commands with the options and the number of operands each of them knows. -/
def commands : List (String × List String × Nat) :=
  [("serve", [], 0),
   ("produce", ["node", "consumer", "drain-timeout-ms"], 1),
   ("consume", ["node", "consumers"], 1),
   ("inspect", [], 1),
   ("config", [], 0)]

def defaultFile : String := "squeue.toml"

/-- Reads a command and its arguments, `files` being what the option that names the settings was
given. -/
def readCommand (files : Occurrences) (command : String) (args : List String) : Request :=
  if command = "help" then
    match args with
    | [] => .help
    | [name] => if commands.any (·.1 == name) || name = "help" then .help else .misuse
    | _ => .misuse
  else
    match commands.lookup command with
    | none => .misuse
    | some (known, operands) =>
      match parse known operands ⟨[], []⟩ none args with
      | .help => .help
      | .misuse => .misuse
      | .given g =>
        match task? command g, single? files some (some defaultFile) with
        | some task, some file => .run file task
        | _, _ => .misuse

/-- The value attached to a short option: an equals sign in front does not count. -/
def attached : List Char → String
  | '=' :: value => String.ofList value
  | value => String.ofList value

/-- Reads all arguments, `files` being what the option that names the settings was given so far,
and `waiting` whether its value may come next. -/
def readArguments : Occurrences → Bool → List String → Request
  | _, _, [] => .misuse
  | files, waiting, arg :: rest =>
    match waiting, Argument.ofString arg with
    | true, .operand file => readArguments (files ++ [some file]) false rest
    | waiting, argument =>
      let files := if waiting then files ++ [none] else files
      match argument with
      | .operand command => readCommand files command rest
      | .long "help" none => .help
      | .long "version" none => .version
      | .long "config" none => readArguments files true rest
      | .long "config" (some file) => readArguments (files ++ [some file]) false rest
      | .short ('h' :: _) => .help
      | .short ('V' :: _) => .version
      | .short ['c'] => readArguments files true rest
      | .short ('c' :: file) => readArguments (files ++ [some (attached file)]) false rest
      | _ => .misuse

def request (args : List String) : Request := readArguments [] false args

end RecordExchange.Command
