import SeccompBootstrap.Proofs.Cli.Values
import SeccompBootstrap.Proofs.OptOut

/-!
The run command from its arguments to its end. A process that is asked to run a workload makes one
bootstrap run and then tries to become the workload once, whatever the run came to; it ends by
itself only if that fails. Values that were not given are missing at their own places in the
argument vector of the bootstrap run. What is said of the standard error stream is said of a process
whose log filter selects no event, since log output is not modelled.
-/

set_option autoImplicit false
set_option relaxedAutoImplicit false

namespace SeccompBootstrap.Cli

open Text.Utf8 (bytes)

variable {host : Host} {env : RawEnvironment} {args : List Argument} {request : RunRequest}

namespace RunRequest

/-- Whether no value is given without the one before it. -/
structure InOrder (request : RunRequest) : Prop where
  uid_of_gid : request.gid.isSome = true → request.uid.isSome = true
  gid_of_options : request.options.isSome = true → request.gid.isSome = true

/-- Each value stands at its own place, or nothing does. -/
structure Placed (request : RunRequest) : Prop where
  program : request.argv[0]? = some "gatehouse"
  workload : request.argv[1]? = some request.workload
  uid : request.argv[2]? = request.uid
  gid : request.argv[3]? = request.gid
  options : request.argv[4]? = request.options
  length : request.argv.length ≤ 5

theorem length_argv_le (request : RunRequest) : request.argv.length ≤ 5 := by
  have one (value : Option String) : value.toList.length ≤ 1 := by
    cases value <;> simp
  have uid := one request.uid
  have gid := one request.gid
  have options := one request.options
  simp only [argv, List.length_append, List.length_cons, List.length_nil]
  omega

theorem InOrder.placed (inOrder : request.InOrder) : request.Placed := by
  have length := request.length_argv_le
  obtain ⟨runtime, library, symbol, workload, uid, gid, options, args⟩ := request
  obtain ⟨uid_of_gid, gid_of_options⟩ := inOrder
  rcases options with _ | options
  · rcases gid with _ | gid
    · rcases uid with _ | uid
      · exact ⟨rfl, rfl, rfl, rfl, rfl, length⟩
      · exact ⟨rfl, rfl, rfl, rfl, rfl, length⟩
    · obtain ⟨uid, rfl⟩ := Option.isSome_iff_exists.mp (uid_of_gid rfl)
      exact ⟨rfl, rfl, rfl, rfl, rfl, length⟩
  · obtain ⟨gid, rfl⟩ := Option.isSome_iff_exists.mp (gid_of_options rfl)
    obtain ⟨uid, rfl⟩ := Option.isSome_iff_exists.mp (uid_of_gid rfl)
    exact ⟨rfl, rfl, rfl, rfl, rfl, length⟩

/-- An omitted value is missing at its own place, once the values before it are read. -/
structure MissingInPlace (request : RunRequest) : Prop where
  uid : request.uid = none →
    Parameters.ofArguments request.argv = .error (.missing 2 "uid")
  gid : request.gid = none → ∀ uid, Parameters.idAt request.argv 2 "uid" = .ok uid →
    Parameters.ofArguments request.argv = .error (.missing 3 "gid")
  options : request.options = none → ∀ uid gid,
    Parameters.idAt request.argv 2 "uid" = .ok uid →
    Parameters.idAt request.argv 3 "gid" = .ok gid →
    Parameters.ofArguments request.argv = .error (.missing 4 "capabilities")

end RunRequest

/-- What the program makes its process do. -/
inductive Deed where
  | bootstrap (config : Config) (argv : List String)
  | exec (workload : String) (args : List String)
  | exit (status : Nat)
  deriving DecidableEq, Repr

/-- A process before its end: the session of its bootstrap runs and what it wrote on the standard
error stream. On the standard output stream it has written nothing. -/
structure Process where
  session : Session HostWorld
  stderr : List UInt8

namespace Process

def start : Process :=
  { session := .start .fresh, stderr := [] }

def bootstrapped (host : LinkingHost) (env : RawEnvironment) (config : Config)
    (argv : List String) (process : Process) : Process :=
  let bootstrap : Bootstrap HostWorld LinkError :=
    { config, loader := .ofConfig (searching host env).linker config }
  let ran := bootstrap.run env.capture argv (.fresh .unbounded) process.session
  { session := ran.2, stderr := process.stderr ++ ran.1.2.accepted }

def replaced (completion : Completion) (process : Process) : Ending :=
  { exitStatus := completion.exitStatus, stdout := completion.stdout, stderr := process.stderr
    becameWorkload := true }

def exited (status : Nat) (process : Process) : Ending :=
  { exitStatus := status, stdout := [], stderr := process.stderr }

end Process

/-- How a process ends that does one thing after the other. Becoming a program leaves out what would
come next, and so does an exit; a process with nothing left to do has no end yet. -/
def enact (host : LinkingHost) (env : RawEnvironment) : List Deed → Process → Option Ending
  | [], _ => none
  | .bootstrap config argv :: rest, process =>
    enact host env rest (process.bootstrapped host env config argv)
  | .exec workload args :: rest, process =>
    match host.files.program (env.get? "PATH") (.ofString workload) with
    | .ok program =>
      let strict := (env.get? "POSIXLY_CORRECT").isSome
      some (process.replaced (program.complete strict (args.map Argument.ofString)))
    | .error errno =>
      enact host env rest
        { process with stderr := process.stderr ++ bytes (startFailure workload errno) }
  | .exit status :: _, process => some (process.exited status)

/-- Everything that the run command does: one bootstrap run, one attempt to become the workload, and
an exit in case that this one fails. -/
def RunRequest.deeds (request : RunRequest) : List Deed :=
  [.bootstrap request.config request.argv, .exec request.workload request.args, .exit 127]

def outcomeOf (host : LinkingHost) (env : RawEnvironment) (request : RunRequest) : Outcome :=
  (bootstrapRun host env request).1.1

/-- All that is promised of a program that is asked to run a workload. -/
structure FailOpen (host : Host) (env : RawEnvironment) (args : List Argument)
    (request : RunRequest) : Prop where
  resolved : ∃ command rest given, args = command :: rest ∧ command.text? = some "run" ∧
    readGiven .start rest = .ok (some given) ∧ given.workload = some request.workload ∧
    request = given.resolved env request.workload ∧
    ((behindSeparator rest).map Argument.bytes).mapM textValue = .ok request.args
  config : request.config =
    { runtime := normalizeLabel request.runtime, libraryPath := request.library
      entrySymbol := request.symbol }
  placed : request.Placed
  missing : request.MissingInPlace
  enacted : enact host.linking env request.deeds .start = some (run host env args)
  becomes : ∀ program,
    host.linking.files.program (env.get? "PATH") (.ofString request.workload) = .ok program →
    let completion := program.complete (env.get? "POSIXLY_CORRECT").isSome
      (request.args.map Argument.ofString)
    run host env args =
      { exitStatus := completion.exitStatus, stdout := completion.stdout
        stderr := bytes ((outcomeOf host.linking env request).line ++ "\n")
        becameWorkload := true }
  exits : ∀ errno,
    host.linking.files.program (env.get? "PATH") (.ofString request.workload) = .error errno →
    run host env args =
      { exitStatus := 127, stdout := []
        stderr := bytes ((outcomeOf host.linking env request).line ++ "\n") ++
          bytes (startFailure request.workload errno)
        becameWorkload := false }
  unaffected : ∀ other : Host,
    other.linking.files.program (env.get? "PATH") (.ofString request.workload) =
      host.linking.files.program (env.get? "PATH") (.ofString request.workload) →
    { run other env args with stderr := [] } = { run host env args with stderr := [] }

end SeccompBootstrap.Cli
