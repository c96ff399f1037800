import SeccompBootstrap.Bootstrap
import SeccompBootstrap.Cli.Help
import SeccompBootstrap.Host.Execution
import SeccompBootstrap.Host.Linking
import SeccompBootstrap.Probe

/-!
Running the program on a host. The run command makes one bootstrap run and then starts the workload,
whatever the outcome; the process itself ends only if the workload does not start. The linker opens
what the environment lists before the program begins, and once more before the workload begins that
the process becomes.

Log output is not modelled. The standard error stream holds what a process writes under a log filter
that selects no event, as the filter does that is in force unless the environment asks for another:
it selects warnings, and no event is one. The events of a bootstrap run are kept in its session; the
program's own event, that it hands over to the workload, is left out.
-/

set_option autoImplicit false
set_option relaxedAutoImplicit false

namespace SeccompBootstrap.Cli

structure Host where
  linking : LinkingHost
  vitals : Vitals

/-- The end of a process: its exit status, what it wrote, and whether the workload had taken its
place by then. -/
structure Ending where
  exitStatus : Nat
  stdout : List UInt8
  stderr : List UInt8
  becameWorkload : Bool := false
  deriving DecidableEq, Repr

def Ending.ofTexts (exitStatus : Nat) (stdout stderr : String) : Ending :=
  { exitStatus, stdout := Text.Utf8.bytes stdout, stderr := Text.Utf8.bytes stderr }

def notStarted : Nat := 127

def misused : Nat := 2

namespace RunRequest

def config (request : RunRequest) : Config :=
  .build [.runtime request.runtime, .libraryPath request.library, .entrySymbol request.symbol]

def argv (request : RunRequest) : List String :=
  ["gatehouse", request.workload] ++ request.uid.toList ++ request.gid.toList ++
    request.options.toList

end RunRequest

/-- A host as the linker searches it in an environment, whose last word on directories to search
first counts. -/
def searching (host : LinkingHost) (env : RawEnvironment) : LinkingHost :=
  match env.last? "LD_LIBRARY_PATH" with
  | some searchPath => if searchPath.isEmpty then host else host.searchFirst searchPath
  | none => host

def bootstrapRun (host : LinkingHost) (env : RawEnvironment) (request : RunRequest) :
    (Outcome × Stream) × Session HostWorld :=
  let bootstrap : Bootstrap HostWorld LinkError :=
    { config := request.config, loader := .ofConfig (searching host env).linker request.config }
  bootstrap.run env.capture request.argv (.fresh .unbounded) (.start .fresh)

def startFailure (workload : String) (errno : Errno) : String :=
  "gatehouse: failed to exec " ++ workload ++ ": " ++ errno.message ++ "\n"

def becomeWorkload (files : FileTree) (env : RawEnvironment) (request : RunRequest)
    (stderr : List UInt8) : Ending :=
  match files.program (env.get? "PATH") (.ofString request.workload) with
  | .ok program =>
    let strict := (env.get? "POSIXLY_CORRECT").isSome
    let completion := program.complete strict (request.args.map Argument.ofString)
    { exitStatus := completion.exitStatus, stdout := completion.stdout, stderr
      becameWorkload := true }
  | .error errno =>
    { exitStatus := notStarted, stdout := []
      stderr := stderr ++ Text.Utf8.bytes (startFailure request.workload errno) }

def runRequest (host : LinkingHost) (env : RawEnvironment) (request : RunRequest) : Ending :=
  becomeWorkload host.files env request (bootstrapRun host env request).1.2.accepted

def ProbeReport.text (report : ProbeReport) : String :=
  let kernel := report.kernel
  lines
    ["kernel: " ++ toString kernel.major.toNat ++ "." ++ toString kernel.minor.toNat ++ "." ++
        toString kernel.patch.toNat,
      "seccomp available: " ++ toString report.available,
      "seccomp mode: " ++ report.mode.name]

def runProbe (vitals : Vitals) : Ending :=
  match Probe.check vitals with
  | .ok report => .ofTexts 0 (ProbeReport.text report) ""
  | .error error => .ofTexts 1 "" ("Error: probe failed: " ++ error.message ++ "\n")

/-- Runs the program with arguments, without the program's name. After misuse only the first line of
what is said counts. -/
def run (host : Host) (env : RawEnvironment) (args : List Argument) : Ending :=
  match readArguments env args with
  | .error error => .ofTexts misused "" (firstLine (present env error.message))
  | .ok (.run request) => runRequest host.linking env request
  | .ok .probe => runProbe host.vitals
  | .ok (.help topic) => .ofTexts 0 (present env (help env topic)) ""
  | .ok .version => .ofTexts 0 version ""

/-- The end of a process whose programs begin with announcements of the linker. -/
def Ending.announced (ending : Ending) : List String → Ending
  | [] => ending
  | first :: rest =>
    let announcements := Text.Utf8.bytes (lines (first :: rest))
    if ending.exitStatus = misused then { ending with stderr := Text.Utf8.bytes first }
    else
      { ending with
        stderr := announcements ++ ending.stderr ++
          if ending.becameWorkload then announcements else [] }

def start (host : Host) (env : RawEnvironment) (args : List Argument) : Ending :=
  let listed := LinkingHost.listedNames ((env.last? "LD_PRELOAD").getD [])
  let (linking, announcements) := (searching host.linking env).preload listed
  (run { host with linking } env args).announced announcements

end SeccompBootstrap.Cli
