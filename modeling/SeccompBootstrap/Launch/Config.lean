import SeccompBootstrap.Activation
import SeccompBootstrap.Json.Reader

/-!
Settings of a launch and their JSON forms. An object names some of the settings, each at most once,
and may hold members of other keys, which are skipped. A list gives the settings by place, or the
first few of them. A setting that is not given keeps its default.
-/

set_option autoImplicit false
set_option relaxedAutoImplicit false

namespace SeccompBootstrap

structure LaunchConfig where
  runtime : String
  disableSeccomp : Bool
  allowedSyscalls : List Int
  enableNetwork : Bool
  deriving DecidableEq, Repr

namespace LaunchConfig

def default : LaunchConfig :=
  { runtime := defaultRuntime
    disableSeccomp := false
    allowedSyscalls := []
    enableNetwork := false }

structure Given where
  runtime : Option String
  disableSeccomp : Option Bool
  allowedSyscalls : Option (List Int)
  enableNetwork : Option Bool
  deriving DecidableEq, Repr

namespace Given

def nothing : Given :=
  { runtime := none, disableSeccomp := none, allowedSyscalls := none, enableNetwork := none }

def complete (given : Given) : LaunchConfig :=
  { runtime := given.runtime.getD default.runtime
    disableSeccomp := given.disableSeccomp.getD default.disableSeccomp
    allowedSyscalls := given.allowedSyscalls.getD default.allowedSyscalls
    enableNetwork := given.enableNetwork.getD default.enableNetwork }

end Given

open Json

/-- Refuses a key that was given already. The place is before the next character that is no blank,
or after it if it closes the object. -/
def refuseRepeated {α : Type} (key : String) (cs : Input) : Except Fault α :=
  match skipSpacing cs with
  | '}' :: rest => stop (.duplicateField key) rest
  | rest => stop (.duplicateField key) rest

/-- The value of a member, from after its key on, unless the key was given already. -/
def readOnce {α : Type} (earlier : Option α) (key : String)
    (value : Input → Except Fault (α × Input)) (cs : Input) : Except Fault (α × Input) := do
  if earlier.isSome then refuseRepeated key cs else value (← colon cs)

def readMember (given : Given) (key : String) (cs : Input) : Except Fault (Given × Input) :=
  match key with
  | "runtime" => do
    let (value, rest) ← readOnce given.runtime key readText cs
    return ({ given with runtime := some value }, rest)
  | "disable_seccomp" => do
    let (value, rest) ← readOnce given.disableSeccomp key readBoolean cs
    return ({ given with disableSeccomp := some value }, rest)
  | "allowed_syscalls" => do
    let (value, rest) ← readOnce given.allowedSyscalls key readInt64List cs
    return ({ given with allowedSyscalls := some value }, rest)
  | "enable_network" => do
    let (value, rest) ← readOnce given.enableNetwork key readBoolean cs
    return ({ given with enableNetwork := some value }, rest)
  | _ => do return (given, ← skipValue (← colon cs))

/-- Reads the next place of a list, unless the list ends before it. -/
def readPlace {α : Type} (first : Bool) (value : Input → Except Fault (α × Input)) (cs : Input) :
    Except Fault (Option α × Input) := do
  match ← nextElement first cs with
  | none => return (none, cs)
  | some cs =>
    let (a, rest) ← value cs
    return (some a, rest)

def readPlaces (cs : Input) : Except Fault (Given × Input) := do
  let (runtime, cs) ← readPlace true readText cs
  let (disableSeccomp, cs) ← readPlace false readBoolean cs
  let (allowedSyscalls, cs) ← readPlace false readInt64List cs
  let (enableNetwork, cs) ← readPlace false readBoolean cs
  return ({ runtime, disableSeccomp, allowedSyscalls, enableNetwork }, ← endList cs)

def read (cs : Input) : Except Fault (LaunchConfig × Input) := do
  let (given, rest) ← match skipSpacing cs with
    | [] => stopPast .endInValue []
    | '{' :: rest => readObject readMember .nothing rest
    | '[' :: rest => readPlaces rest
    | rest => refuseType "struct LaunchConfig" rest
  return (given.complete, rest)

def ofJson (text : String) : Except Failure LaunchConfig :=
  readDocument read text

end LaunchConfig

end SeccompBootstrap
