import SeccompBootstrap.Outcome

/-!
Sessions: a world that steps act on, together with what a run leaves behind besides its result. That
is the events it emitted and the number of panics that the process's panic handler got to see, which
a quiet session keeps from it. An `Action` is a step that may fail or panic. `absorb` is the
boundary that no trouble passes: it runs a step in a quiet session and turns a failure or a panic
into an outcome, with the step's message on a single line; afterwards the session is as quiet as it
was before. A `Binding` is an entry point that can be called, a `Loader` obtains one.
-/

set_option autoImplicit false
set_option relaxedAutoImplicit false

namespace SeccompBootstrap

inductive Payload where
  | text (message : String)
  | foreign
  deriving DecidableEq, Repr

/-- How a step ends without a result. -/
inductive Trouble (ε : Type) where
  | failure (error : ε)
  | panic (payload : Payload)
  deriving DecidableEq, Repr

def Trouble.map {ε δ : Type} (f : ε → δ) : Trouble ε → Trouble δ
  | .failure error => .failure (f error)
  | .panic payload => .panic payload

/-- A world with the record of what happened in it. -/
structure Session (σ : Type) where
  world : σ
  quiet : Bool
  panicsSeen : Nat
  trace : List Event
  deriving DecidableEq, Repr

def Session.start {σ : Type} (world : σ) : Session σ :=
  { world, quiet := false, panicsSeen := 0, trace := [] }

/-- A computation in a session that always ends with a result. -/
abbrev Activity (σ α : Type) := StateM (Session σ) α

/-- A step in a session that ends with a result or with a trouble. -/
abbrev Action (σ ε α : Type) := ExceptT (Trouble ε) (StateM (Session σ)) α

namespace Activity

variable {σ : Type}

def emitAll (events : List Event) : Activity σ Unit :=
  modify fun session => { session with trace := session.trace ++ events }

def emit (event : Event) : Activity σ Unit :=
  emitAll [event]

def act {α : Type} (change : σ → α × σ) : Activity σ α := fun session =>
  let (result, world) := change session.world
  (result, { session with world })

end Activity

namespace Action

variable {σ ε δ α : Type}

def ofActivity (activity : Activity σ α) : Action σ ε α :=
  ExceptT.lift activity

def emit (event : Event) : Action σ ε Unit :=
  ofActivity (Activity.emit event)

def act (change : σ → α × σ) : Action σ ε α :=
  ofActivity (Activity.act change)

def fail (error : ε) : Action σ ε α :=
  throw (.failure error)

/-- Panics: the panic handler sees it unless the session is quiet. -/
def panic (payload : Payload) : Action σ ε α := do
  modify fun session =>
    if session.quiet then session else { session with panicsSeen := session.panicsSeen + 1 }
  throw (.panic payload)

def ofExcept : Except ε α → Action σ ε α
  | .ok value => pure value
  | .error error => fail error

def mapError (f : ε → δ) (step : Action σ ε α) : Action σ δ α :=
  ExceptT.adapt (Trouble.map f) step

end Action

/-- How a guarded step goes on: with its value, or not at all. -/
inductive Flow (α : Type) where
  | proceed (value : α)
  | stop (outcome : Outcome)
  deriving DecidableEq, Repr

def Payload.message : Payload → String
  | .text message => message
  | .foreign => "unknown panic payload"

def Trouble.message {ε : Type} (describe : ε → String) : Trouble ε → String
  | .failure error => describe error
  | .panic payload => "panicked: " ++ payload.message

def Trouble.detail {ε : Type} (describe : ε → String) (trouble : Trouble ε) : String :=
  Text.singleLine (trouble.message describe)

def Flow.ofResult {ε α : Type} (describe : ε → String) (degrade : String → Outcome) :
    Except (Trouble ε) α → Flow α
  | .ok value => .proceed value
  | .error trouble => .stop (degrade (trouble.detail describe))

/-- Runs a step so that no trouble passes and no panic of it is seen. -/
def absorb {σ ε α : Type} (describe : ε → String) (degrade : String → Outcome)
    (step : Action σ ε α) : Activity σ (Flow α) := fun session =>
  let (result, after) := step.run { session with quiet := true }
  (.ofResult describe degrade result, { after with quiet := session.quiet })

inductive EnforcementError where
  | alreadyAttempted
  | native (reason : String)
  deriving DecidableEq, Repr

def EnforcementError.message : EnforcementError → String
  | .alreadyAttempted => "enforcement was already attempted in this process"
  | .native reason => reason

/-- An entry point that can be called for a user id, a group id and the network toggle. -/
structure Binding (σ : Type) where
  enforce : UInt32 → UInt32 → Bool → Action σ EnforcementError Unit

/-- What obtains a binding, with errors of type `ε` and their wording. -/
structure Loader (σ ε : Type) where
  load : Action σ ε (Binding σ)
  describe : ε → String

end SeccompBootstrap
