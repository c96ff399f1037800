import SeccompBootstrap.Session

/-!
The bootstrap: decide whether enforcement is wanted, load the library, read the parameters and make
the call, all behind the boundary, then report the outcome: an event, then the outcome's line on a
diagnostic stream. A run always ends with an outcome. A stream has limits: it accepts bytes in
pieces, breaks off a write once at one offset, fails for good or accepts nothing at others, and may
refuse to flush; all offsets count accepted bytes. `writeAll` goes on after a short or an
interrupted write and gives up on any other trouble, which costs a second event and nothing else.
-/

set_option autoImplicit false
set_option relaxedAutoImplicit false

namespace SeccompBootstrap

inductive StreamFault where
  | brokenPipe
  | permissionDenied
  | storageFull
  | nothingAccepted
  | other (reason : String)
  deriving DecidableEq, Repr

def StreamFault.message : StreamFault → String
  | .brokenPipe => "broken pipe"
  | .permissionDenied => "permission denied"
  | .storageFull => "no storage space"
  | .nothingAccepted => "failed to write whole buffer"
  | .other reason => reason

structure StreamLimits where
  failAt : Option Nat
  interruptAt : Option Nat
  zeroAt : Option Nat
  chunk : Option Nat
  flushFails : Bool
  fault : StreamFault
  deriving DecidableEq, Repr

def StreamLimits.unbounded : StreamLimits :=
  { failAt := none, interruptAt := none, zeroAt := none, chunk := none, flushFails := false
    fault := .brokenPipe }

/-- A stream: its limits, the bytes accepted so far, whether it has broken off a write already, and
how often it was asked to flush. -/
structure Stream where
  limits : StreamLimits
  accepted : List UInt8
  interrupted : Bool
  flushes : Nat
  deriving DecidableEq, Repr

namespace Stream

def fresh (limits : StreamLimits) : Stream :=
  { limits, accepted := [], interrupted := false, flushes := 0 }

def offset (stream : Stream) : Nat :=
  stream.accepted.length

inductive Reply where
  | accepted (count : Nat)
  | interrupted
  | failed (fault : StreamFault)
  deriving DecidableEq, Repr

/-- A count lowered so that a write from an offset stops at a later one. -/
def stopAt (offset : Nat) (place : Option Nat) (count : Nat) : Nat :=
  match place with
  | none => count
  | some place => if offset < place then min count (place - offset) else count

/-- How many of the given bytes a write accepts when nothing stops it at its offset. -/
def room (stream : Stream) (length : Nat) : Nat :=
  let limits := stream.limits
  let count := match limits.chunk with
    | none => length
    | some chunk => min length chunk
  stopAt stream.offset limits.failAt
    (stopAt stream.offset limits.interruptAt (stopAt stream.offset limits.zeroAt count))

/-- A single write of a byte list that is not empty. An interruption comes before a failure, and a
failure before a write that accepts nothing. -/
def write (stream : Stream) (bytes : List UInt8) : Reply × Stream :=
  if stream.limits.interruptAt = some stream.offset ∧ stream.interrupted = false then
    (.interrupted, { stream with interrupted := true })
  else if stream.limits.failAt = some stream.offset then (.failed stream.limits.fault, stream)
  else if stream.limits.zeroAt = some stream.offset then (.accepted 0, stream)
  else
    let count := stream.room bytes.length
    (.accepted count, { stream with accepted := stream.accepted ++ bytes.take count })

/-- Writes until nothing is left. The fuel bounds the number of writes. -/
def writeLoop : Nat → Stream → List UInt8 → Except StreamFault Unit × Stream
  | _, stream, [] => (.ok (), stream)
  | 0, stream, _ => (.error .nothingAccepted, stream)
  | fuel + 1, stream, bytes =>
    match stream.write bytes with
    | (.interrupted, stream) => writeLoop fuel stream bytes
    | (.failed fault, stream) => (.error fault, stream)
    | (.accepted 0, stream) => (.error .nothingAccepted, stream)
    | (.accepted count, stream) => writeLoop fuel stream (bytes.drop count)

/-- Writes a whole byte list. Every write accepts a byte, ends the attempt or is the one that is
interrupted, so one more write than there are bytes is enough. -/
def writeAll (stream : Stream) (bytes : List UInt8) : Except StreamFault Unit × Stream :=
  writeLoop (bytes.length + 1) stream bytes

def flush (stream : Stream) : Except StreamFault Unit × Stream :=
  let stream := { stream with flushes := stream.flushes + 1 }
  (if stream.limits.flushFails then .error stream.limits.fault else .ok (), stream)

def writeLine (stream : Stream) (line : String) : Except StreamFault Unit × Stream :=
  match stream.writeAll (Text.Utf8.bytes (line ++ "\n")) with
  | (.ok (), stream) => stream.flush
  | (.error fault, stream) => (.error fault, stream)

def text (stream : Stream) : String :=
  Text.Utf8.decodeLossy stream.accepted

end Stream

def Outcome.report (outcome : Outcome) (stream : Stream) : List Event × Stream :=
  let finished := Event.finished outcome.label outcome.isProtected
  match stream.writeLine outcome.line with
  | (.ok (), stream) => ([finished], stream)
  | (.error fault, stream) => ([finished, .streamUnavailable fault.message], stream)

def Outcome.reportAll (outcomes : List Outcome) (stream : Stream) : List Event × Stream :=
  outcomes.foldl
    (fun (events, stream) outcome =>
      let (more, stream) := outcome.report stream
      (events ++ more, stream))
    ([], stream)

inductive InitError where
  | parameters (error : ParameterError)
  | enforcement (error : EnforcementError)
  deriving DecidableEq, Repr

namespace InitError

def cause : InitError → String
  | .parameters error => error.message
  | .enforcement error => error.message

def message : InitError → String
  | .parameters error => "invalid parameters: " ++ error.message
  | .enforcement error => "enforcement call failed: " ++ error.message

end InitError

/-- A bootstrap in worlds of type `σ`, with load errors of type `ε`. -/
structure Bootstrap (σ ε : Type) where
  config : Config
  loader : Loader σ ε

namespace Bootstrap

variable {σ ε : Type}

def enforceOnce (binding : Binding σ) (argv : List String) : Action σ InitError Parameters := do
  let parameters ← (Action.ofExcept (Parameters.ofArguments argv)).mapError .parameters
  Action.emit (.parametersParsed parameters)
  (binding.enforce parameters.uid parameters.gid parameters.capabilities.enableNetwork).mapError
    .enforcement
  return parameters

def attempt (bootstrap : Bootstrap σ ε) (argv : List String) : Activity σ Outcome := do
  match ← absorb bootstrap.loader.describe .loadFailure bootstrap.loader.load with
  | .stop outcome => return outcome
  | .proceed binding =>
    match ← absorb InitError.message .initFailure (enforceOnce binding argv) with
    | .stop outcome => return outcome
    | .proceed parameters => return .enforced parameters

/-- The outcome of a run: that of a flag which opts out, or of the attempt. -/
def settle (bootstrap : Bootstrap σ ε) (env : Environment) (argv : List String) :
    Activity σ Outcome := do
  let mode := ActivationMode.resolve env bootstrap.config
  Activity.emit (.modeResolved mode bootstrap.config.runtime)
  match mode with
  | .disabled => return .disabled bootstrap.config.disableVar
  | .debugSkip => return .debugSkip skipVar
  | .active => bootstrap.attempt argv

/-- One run: its outcome, reported on a stream, and that stream afterwards. -/
def run (bootstrap : Bootstrap σ ε) (env : Environment) (argv : List String) (stream : Stream) :
    Activity σ (Outcome × Stream) := do
  let outcome ← bootstrap.settle env argv
  let (events, stream) := outcome.report stream
  Activity.emitAll events
  return (outcome, stream)

end Bootstrap

end SeccompBootstrap
