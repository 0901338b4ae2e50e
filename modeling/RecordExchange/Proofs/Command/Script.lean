import RecordExchange.Command.Run

set_option autoImplicit false

/-!
The commands that move records, as scripts.

A script is what a command does with nothing but its operations left: one of them, and for each of
its results the script that follows. Its type says what the process holds where it begins, so that
an operation that needs a handle stands only where there is one, and a script ends only where the
handle was let go of. Of claims the type keeps account, but it does not ask for them back.

A site performs a script, and what it makes of the scripts of the two commands is what the commands
are.
-/

namespace RecordExchange.Command

/-- What became of the claim of a command. -/
inductive Stake where
  /-- None was made. -/
  | none
  /-- It stands. -/
  | held
  /-- It stands, and the attempt to give it up failed. -/
  | kept
  /-- It was given up. -/
  | returned
  deriving DecidableEq, Repr

/-- Whether a claim stands. -/
def Stake.isOwed : Stake → Bool
  | .held => true
  | .kept => true
  | _ => false

/-- What a command is to the queue. -/
inductive Role where
  /-- It was not bound. -/
  | unbound
  | producer
  | consumer
  /-- It has let go of what it was bound as. -/
  | gone
  deriving DecidableEq, Repr

def Role.isFree : Role → Bool
  | .producer => false
  | .consumer => false
  | _ => true

/-- The handle that goes with a role. -/
abbrev Role.Grip : Role → Type
  | .producer => Producer
  | .consumer => Consumer
  | _ => Unit

/-- What a command does, from where it has a stake and a role. Operations that may wait have no
result if they would for ever. -/
inductive Script : Stake → Role → Type where
  | done {stake : Stake} {role : Role} (free : role.isFree = true) (outcome : Outcome) :
      Script stake role
  | acquire (consumers : Nat) (refused : Error → Script .none .unbound)
      (granted : Script .held .unbound) : Script .none .unbound
  | bind (consumers distribution : List NodeId) (refused : Error → Script .held .unbound)
      (producing : List Nat → Script .held .producer) (reading : Script .held .consumer) :
      Script .held .unbound
  | write (slot : Nat) (record : Record) (next : Except Error Unit → Script .held .producer) :
      Script .held .producer
  | drain (timeoutMs : Nat) (next : Option (Except Error Nat) → Script .held .producer) :
      Script .held .producer
  /-- The readers get on. -/
  | pause (next : Script .held .producer) : Script .held .producer
  | unbind (failed : Bool) (next : Option (Except Error Unit) → Script .held .gone) :
      Script .held .producer
  | read (next : Option (Except Error ReadOutcome) → Script .held .consumer) :
      Script .held .consumer
  /-- A consumer lets go. -/
  | drop {stake : Stake} (next : Script stake .gone) : Script stake .consumer
  | release {role : Role} (refused : Error → Script .kept role) (given : Script .returned role) :
      Script .held role

namespace Script

/-- A site performs a script for a process with a handle of the script's role. -/
def perform (v : View) (session : Session) (queue : String) {stake : Stake} {role : Role}
    (script : Script stake role) (s : Site) (grip : role.Grip) : Site × Outcome :=
  match script, grip with
  | .done _ outcome, _ => (s, outcome)
  | .acquire consumers refused granted, _ =>
    match s.host.acquire v session queue consumers with
    | (host, .error cause) => (refused cause).perform v session queue { s with host } ()
    | (host, .ok ()) => granted.perform v session queue { s with host } ()
  | .bind consumers distribution refused producing reading, _ =>
    match s.host.bind v session queue consumers distribution with
    | (host, .error cause) => (refused cause).perform v session queue { s with host } ()
    | (host, .ok (.producer p)) =>
      (producing p.targets).perform v session queue { s with host } p
    | (host, .ok (.consumer c)) => reading.perform v session queue { s with host } c
  | .write slot record next, p =>
    let (p, q, result) :=
      Producer.write p v.config.overflowMemoryLimit (s.host.queue v p.handle) slot record
    (next result).perform v session queue { s with host := s.host.setQueue v p.handle q } p
  | .drain timeoutMs next, p =>
    match s.drain v p timeoutMs with
    | (s, p, result) => (next result).perform v session queue s p
  | .pause next, p => next.perform v session queue s.settle p
  | .unbind failed next, p =>
    match s.unbind v p failed with
    | (s, result) => (next result).perform v session queue s ()
  | .read next, c =>
    match s.read v c true with
    | (s, c, result) => (next result).perform v session queue s c
  | .drop next, c => next.perform v session queue (s.dropConsumer v c) ()
  | .release refused given, grip =>
    match s.host.release v session queue with
    | (host, .error cause) => (refused cause).perform v session queue { s with host } grip
    | (host, .ok ()) => given.perform v session queue { s with host } grip

/-! The scripts of the commands. -/

def quit (failure : Failure) : Script .held .producer :=
  .unbind true fun _ => .done rfl (.failed failure [])

/-- Gives the claim up and ends with `outcome`, or with the failure to do so. -/
def conclude {role : Role} (free : role.isFree = true) (outcome : Outcome) : Script .held role :=
  .release (fun cause => .done free (.failed (.error cause) outcome.output)) (.done free outcome)

def close (failed : Bool) (outcome : Outcome) : Script .held .producer :=
  .unbind failed fun
    | none => .done rfl (.failed .stuck [])
    | some (.error cause) => .done rfl (.failed (.error cause) [])
    | some (.ok ()) => conclude rfl outcome

/-- Drains until nothing is held back, and ends with the number of records written. -/
def drainAll (timeoutMs written : Nat) : Nat → Script .held .producer
  | 0 => quit .stuck
  | rounds + 1 =>
    .drain timeoutMs fun
      | none => quit .stuck
      | some (.error cause) => quit (.error cause)
      | some (.ok 0) => close false (.remark [] s!"Wrote {written} records")
      | some (.ok _) => .pause (drainAll timeoutMs written rounds)

def writeLines (targets : List Nat) (timeoutMs : Nat) : Nat → List (List UInt8) →
    Script .held .producer
  | written, [] => drainAll timeoutMs written Site.patience
  | written, line :: rest =>
    if (Text.ofUtf8? line).isNone then quit .badInput
    else
      .write (targets.getD (written % targets.length) 0) line fun
        | .error cause => quit (.error cause)
        | .ok () => writeLines targets timeoutMs (written + 1) rest

/-- Sends the lines of the input to the consumers of a queue in turn. -/
def produce (session : Session) (queue : String) (consumers : List NodeId) (drainTimeoutMs : Nat)
    (input : List UInt8) : Script .none .unbound :=
  .acquire consumers.length (fun cause => .done rfl (.failed (.error cause) []))
    (.bind consumers (session.node :: consumers)
      (fun cause => .done rfl (.failed (.error cause) []))
      (fun targets =>
        if targets.isEmpty then
          close false (.failed (.sentence s!"no consumer slot in shared queue {queue}") [])
        else writeLines targets drainTimeoutMs 0 (splitLines input))
      (.release (fun cause => .drop (.done rfl (.failed (.error cause) [])))
        (.drop (.done rfl
          (.failed (.sentence s!"shared queue {queue} already has a producer") [])))))

def readRecords : Nat → List UInt8 → Nat → Script .held .consumer
  | 0, output, _ => .drop (.done rfl (.failed .stuck output))
  | reads + 1, output, records =>
    .read fun
      | none => .drop (.done rfl (.failed .stuck output))
      | some (.error cause) => .drop (.done rfl (.failed (.error cause) output))
      | some (.ok (.record payload)) =>
        readRecords reads (output ++ payload ++ [0x0a]) (records + 1)
      | some (.ok .eof) => .drop (conclude rfl (.remark output s!"Read {records} records"))
      | some (.ok .wouldBlock) => readRecords reads output records

/-- Prints the records a queue holds for a node, one per line. -/
def consume (queue : String) (consumers : Nat) : Script .none .unbound :=
  .acquire consumers (fun cause => .done rfl (.failed (.error cause) []))
    (.bind [] [] (fun cause => conclude rfl (.failed (.error cause) []))
      (fun _ => close true (.failed (.sentence s!"shared queue {queue} has no producer") []))
      (readRecords Site.patience [] 0))

/-! What a site makes of the scripts is what the commands do. -/

section Perform

variable (v : View) (session : Session) (queue : String)

theorem perform_conclude (s : Site) (role : Role) (free : role.isFree = true) (outcome : Outcome)
    (grip : role.Grip) :
    (conclude free outcome).perform v session queue s grip =
      releaseThen s v session queue outcome := by
  rcases released : s.host.release v session queue with ⟨host, cause | _⟩
  · simp only [conclude, perform, releaseThen, released]
  · simp only [conclude, perform, releaseThen, released]

theorem perform_quit (s : Site) (p : Producer) (failure : Failure) :
    (quit failure).perform v session queue s p = (s.dropProducer v p, .failed failure []) := by
  simp only [quit, perform, Site.dropProducer]

theorem perform_close (s : Site) (p : Producer) (failed : Bool) (outcome : Outcome) :
    (close failed outcome).perform v session queue s p =
      unbindThen s v p failed session queue outcome := by
  rcases unbound : s.unbind v p failed with ⟨t, _ | cause | _⟩
  · simp only [close, perform, unbindThen, unbound]
  · simp only [close, perform, unbindThen, unbound]
  · simp only [close, perform, unbindThen, unbound]
    exact perform_conclude v session queue t .gone rfl outcome ()

def afterDraining (written : Nat) : Site × Producer × Except Failure Unit → Site × Outcome
  | (s, p, .error failure) => (s.dropProducer v p, .failed failure [])
  | (s, p, .ok ()) =>
    unbindThen s v p false session queue (.remark [] s!"Wrote {written} records")

theorem perform_drainAll (timeoutMs written rounds : Nat) (s : Site) (p : Producer) :
    (drainAll timeoutMs written rounds).perform v session queue s p =
      afterDraining v session queue written (Command.drainAll v timeoutMs rounds s p) := by
  induction rounds generalizing s p with
  | zero => exact perform_quit v session queue s p .stuck
  | succ rounds ih =>
    rcases drained : s.drain v p timeoutMs with ⟨t, p, _ | cause | pending⟩
    · simp only [drainAll, perform, Command.drainAll, drained]
      exact perform_quit v session queue t p .stuck
    · simp only [drainAll, perform, Command.drainAll, drained]
      exact perform_quit v session queue t p (.error cause)
    · simp only [drainAll, perform, Command.drainAll, drained]
      cases pending with
      | zero => exact perform_close v session queue t p false _
      | succ pending => exact ih t.settle p

def afterWriting (timeoutMs : Nat) : Site × Producer × Except Failure Nat → Site × Outcome
  | (s, p, .error failure) => (s.dropProducer v p, .failed failure [])
  | (s, p, .ok written) =>
    afterDraining v session queue written (Command.drainAll v timeoutMs Site.patience s p)

theorem perform_writeLines (targets : List Nat) (timeoutMs : Nat) (lines : List (List UInt8))
    (s : Site) (p : Producer) (written : Nat) :
    (writeLines targets timeoutMs written lines).perform v session queue s p =
      afterWriting v session queue timeoutMs (Command.writeLines v targets s p written lines) := by
  induction lines generalizing s p written with
  | nil => exact perform_drainAll v session queue timeoutMs written Site.patience s p
  | cons line rest ih =>
    rw [writeLines, Command.writeLines]
    split
    · exact perform_quit v session queue s p .badInput
    · rcases wrote : p.write v.config.overflowMemoryLimit (s.host.queue v p.handle)
        (targets.getD (written % targets.length) 0) line with ⟨p', q, cause | _⟩
      · simp only [perform, wrote]
        exact perform_quit v session queue _ p' (.error cause)
      · simp only [perform, wrote]
        exact ih ..

theorem perform_produce (s : Site) (consumers : List NodeId) (drainTimeoutMs : Nat)
    (input : List UInt8) :
    (produce session queue consumers drainTimeoutMs input).perform v session queue s () =
      Command.produce s v session queue consumers drainTimeoutMs input := by
  rw [produce, Command.produce]
  rcases acquired : s.host.acquire v session queue consumers.length with ⟨host, cause | _⟩
  · simp only [perform, acquired]
  · rcases bound : host.bind v session queue consumers (session.node :: consumers) with
      ⟨host', cause | p | c⟩
    · simp only [perform, acquired, bound]
    · simp only [perform, acquired, bound]
      split
      · exact perform_close v session queue _ p false _
      · rw [perform_writeLines]
        rcases Command.writeLines v p.targets { s with host := host' } p 0 (splitLines input) with
          ⟨t, p, failure | written⟩
        · rfl
        · simp only [afterWriting]
          rcases Command.drainAll v drainTimeoutMs Site.patience t p with ⟨t, p, failure | _⟩
          · rfl
          · rfl
    · rcases released : host'.release v session queue with ⟨host, cause | _⟩
      · simp only [perform, acquired, bound, releaseThen, released, Outcome.failed]
      · simp only [perform, acquired, bound, releaseThen, released]

def afterReading (state : Consumption) : Site × Outcome :=
  let s := state.site.dropConsumer v state.consumer
  match state.failure with
  | some failure => (s, .failed failure state.output)
  | none =>
    releaseThen s v session queue (.remark state.output s!"Read {state.records} records")

theorem perform_readRecords (reads : Nat) (s : Site) (c : Consumer) (output : List UInt8)
    (records : Nat) :
    (readRecords reads output records).perform v session queue s c =
      afterReading v session queue
        (Command.readRecords v reads ⟨s, c, output, records, none⟩) := by
  induction reads generalizing s c output records with
  | zero => rfl
  | succ reads ih =>
    rw [readRecords, Command.readRecords]
    rcases got : s.read v c true with ⟨t, c, _ | cause | payload | _ | _⟩
    · simp only [perform, got, afterReading]
    · simp only [perform, got, afterReading]
    · simp only [perform, got]
      exact ih ..
    · simp only [perform, got]
      exact perform_conclude v session queue (t.dropConsumer v c) .gone rfl _ ()
    · simp only [perform, got]
      exact ih ..

theorem perform_consume (s : Site) (consumers : Nat) :
    (consume queue consumers).perform v session queue s () =
      Command.consume s v session queue consumers := by
  rw [consume, Command.consume]
  rcases acquired : s.host.acquire v session queue consumers with ⟨host, cause | _⟩
  · simp only [perform, acquired]
  · rcases bound : host.bind v session queue [] [] with ⟨host', cause | p | c⟩
    · simp only [perform, acquired, bound]
      exact perform_conclude v session queue _ .unbound rfl _ ()
    · simp only [perform, acquired, bound]
      exact perform_close v session queue _ p true _
    · simp only [perform, acquired, bound]
      exact perform_readRecords v session queue Site.patience { s with host := host' } c [] 0

end Perform

end Script

end RecordExchange.Command
