import SeccompBootstrap.Bootstrap
import SeccompBootstrap.Enforcement
import SeccompBootstrap.Launch.Config

/-!
Launching a bootstrap for a workload: the arguments it gets and the environment it starts from. The
arguments are the bootstrap's own, the workload, user id, group id, capability options, and after a
`--` the workload's. The environment holds flags for what the settings or the host ask for, and what
was added by hand; nothing else of the host reaches the child. `handoff` is the outcome of a
bootstrap that gets the launch's arguments right after its program name, starts from the child's
environment, and whose enforcement succeeds.
-/

set_option autoImplicit false
set_option relaxedAutoImplicit false

namespace SeccompBootstrap

inductive LaunchError where
  | config (failure : Json.Failure)
  | options (failure : Json.Failure)
  | idOutOfRange (name : String) (value : UInt32)
  deriving DecidableEq, Repr

namespace LaunchError

def message : LaunchError → String
  | .config failure => "invalid launch config: " ++ failure.message
  | .options failure => "failed to encode capability options: " ++ failure.message
  | .idOutOfRange name value => outOfRangeMessage name value

def failure? : LaunchError → Option Json.Failure
  | .config failure => some failure
  | .options failure => some failure
  | .idOutOfRange _ _ => none

end LaunchError

/-- The flag of the host that makes a child skip enforcement for debugging. -/
def debugSkipVar : String := "DEBUG_SKIP_SECCOMP"

def allowedSyscallsVar : String := "ALLOWED_SYSCALLS"

structure Launch where
  bootstrap : Path
  bootstrapArgs : List String
  workload : Path
  workloadArgs : List String
  uid : UInt32
  gid : UInt32
  config : LaunchConfig
  extraEnv : List (String × String)
  deriving DecidableEq, Repr

structure Command where
  program : Argument
  args : List Argument
  env : Environment
  deriving DecidableEq, Repr

/-- What a command shows for an argument that no program can receive. -/
def unpassableArgument : Argument := .ofString "<string-with-nul>"

def Argument.passable (argument : Argument) : Argument :=
  if argument.bytes.contains 0 then unpassableArgument else argument

namespace Launch

def ofWorkload (bootstrap workload : Path) (uid gid : UInt32) : Launch :=
  { bootstrap, bootstrapArgs := [], workload, workloadArgs := [], uid, gid
    config := .default, extraEnv := [] }

inductive Step where
  | bootstrapArg (argument : String)
  | arg (argument : String)
  | env (name value : String)
  | config (config : LaunchConfig)
  deriving DecidableEq, Repr

def apply (launch : Launch) : Step → Launch
  | .bootstrapArg argument => { launch with bootstrapArgs := launch.bootstrapArgs ++ [argument] }
  | .arg argument => { launch with workloadArgs := launch.workloadArgs ++ [argument] }
  | .env name value => { launch with extraEnv := launch.extraEnv ++ [(name, value)] }
  | .config config => { launch with config }

def capabilities (launch : Launch) : Capabilities :=
  ⟨launch.config.enableNetwork⟩

def checkId (name : String) (id : UInt32) : Except LaunchError Unit :=
  if fitsInt32 id then .ok () else .error (.idOutOfRange name id)

def separatedArgs (launch : Launch) : List String :=
  if launch.workloadArgs.isEmpty then [] else "--" :: launch.workloadArgs

def args (launch : Launch) : Except LaunchError (List Argument) := do
  checkId "uid" launch.uid
  checkId "gid" launch.gid
  return launch.bootstrapArgs.map .ofString ++ .ofPath launch.workload ::
    ([toString launch.uid.toNat, toString launch.gid.toNat, launch.capabilities.toJson] ++
      launch.separatedArgs).map .ofString

def disableVar (launch : Launch) : String :=
  SeccompBootstrap.disableVar launch.config.runtime

/-- Whether the settings or the host turn enforcement off. -/
def isDisabled (launch : Launch) (host : Environment) : Bool :=
  launch.config.disableSeccomp || host.isTrue launch.disableVar

/-- Whether the host makes children skip enforcement. -/
def isSkipped (host : Environment) : Bool :=
  host.isTrue debugSkipVar

def syscallList (syscalls : List Int) : String :=
  ",".intercalate (syscalls.map toString)

def childEnv (launch : Launch) (host : Environment) : List (String × String) :=
  (if launch.isDisabled host then [(launch.disableVar, "true")] else []) ++
  (if isSkipped host then [(skipVar, "true")] else []) ++
  (if launch.config.allowedSyscalls.isEmpty then []
    else [(allowedSyscallsVar, syscallList launch.config.allowedSyscalls)]) ++
  launch.extraEnv

def childEvents (launch : Launch) (host : Environment) : List Event :=
  (if launch.isDisabled host then [.launchDisabled launch.disableVar] else []) ++
  (if isSkipped host then [.launchSkips] else [])

def command (launch : Launch) (host : Environment) : Except LaunchError Command := do
  let args ← launch.args
  return { program := (Argument.ofPath launch.bootstrap).passable
           args := args.map Argument.passable
           env := ⟨launch.childEnv host⟩ }

def childArgv (launch : Launch) (args : List Argument) : List String :=
  (Argument.ofPath launch.bootstrap :: args).map Argument.display

/-- The outcome of the launched bootstrap under a configuration of its own. -/
def handoff (launch : Launch) (host : Environment) (config : Config) :
    Except LaunchError Outcome := do
  let args ← launch.args
  let child : Bootstrap Record LinkError := { config, loader := Script.succeeding.loader }
  let run := child.run ⟨launch.childEnv host⟩ (launch.childArgv args) (.fresh .unbounded)
  return (run (.start .empty)).1.1

end Launch

end SeccompBootstrap
