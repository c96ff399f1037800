import SeccompBootstrap.Session

/-!
Trees of steps to rehearse the boundary with. A step returns, fails, panics or guards another step,
and after a guarded step another one may follow. An entry of a rehearsal guards a step, or runs it
outside of any boundary and catches what comes of it.
-/

set_option autoImplicit false
set_option relaxedAutoImplicit false

namespace SeccompBootstrap

inductive Phase where
  | load
  | init
  deriving DecidableEq, Repr

def Phase.degrade : Phase → String → Outcome
  | .load => .loadFailure
  | .init => .initFailure

/-- A step over values of a type. -/
inductive StepTree (ν : Type) where
  | value (value : ν)
  | failure (message : String)
  | panic (payload : Payload)
  | guarded (phase : Phase) (inner : StepTree ν)
  | guardedThen (phase : Phase) (inner next : StepTree ν)
  deriving DecidableEq

/-- What a step returns: a value, how a guarded step went on, or that with what followed. -/
inductive Yield (ν : Type) where
  | value (value : ν)
  | proceeded (inner : Yield ν)
  | stopped (outcome : Outcome)
  | proceededThen (inner next : Yield ν)
  | stoppedThen (outcome : Outcome) (next : Yield ν)
  deriving DecidableEq

namespace Yield

variable {ν : Type}

def ofFlow : Flow (Yield ν) → Yield ν
  | .proceed inner => .proceeded inner
  | .stop outcome => .stopped outcome

def ofFlowThen (flow : Flow (Yield ν)) (next : Yield ν) : Yield ν :=
  match flow with
  | .proceed inner => .proceededThen inner next
  | .stop outcome => .stoppedThen outcome next

end Yield

namespace StepTree

variable {ν : Type}

/-- The step that a tree describes; its errors are messages. -/
def run : StepTree ν → Action Unit String (Yield ν)
  | .value v => pure (.value v)
  | .failure message => Action.fail message
  | .panic payload => Action.panic payload
  | .guarded phase inner => do
    return .ofFlow (← absorb id phase.degrade inner.run)
  | .guardedThen phase inner next => do
    let flow ← absorb id phase.degrade inner.run
    return .ofFlowThen flow (← next.run)

end StepTree

inductive Rehearsed (ν : Type) where
  | guarded (phase : Phase) (step : StepTree ν)
  | outside (step : StepTree ν)
  deriving DecidableEq

inductive Upshot (ν : Type) where
  | flow (flow : Flow (Yield ν))
  | caught (result : Except (Trouble String) (Yield ν))

namespace Rehearsed

variable {ν : Type}

def play : Rehearsed ν → Activity Unit (Upshot ν)
  | .guarded phase step => do
    return .flow (← absorb id phase.degrade step.run)
  | .outside step => do
    return .caught (← step.run.run)

/-- Plays entries in order and says after each how many panics have been seen. -/
def playAll (entries : List (Rehearsed ν)) : Activity Unit (List (Upshot ν × Nat)) :=
  entries.mapM fun entry => do
    let upshot ← entry.play
    return (upshot, (← get).panicsSeen)

end Rehearsed

end SeccompBootstrap
