import SeccompBootstrap.Cli.Start

/-!
The program. It shows itself a host without files, so that no library loads and no workload starts;
kernel release and process status are those of the machine.
-/

set_option autoImplicit false
set_option relaxedAutoImplicit false

namespace SeccompBootstrap.Terminal

def namedVariables : List String :=
  Cli.RunOption.all.map Cli.RunOption.envName ++
    ["PATH", "NO_COLOR", "CLICOLOR_FORCE", skipVar, disableVar defaultRuntime]

def readVariables (names : List String) : IO RawEnvironment := do
  return .ofAssignments (← names.filterMapM fun name => do
    return (← IO.getEnv name).map fun value => (Text.Utf8.bytes name, Text.Utf8.bytes value))

/-- The content of a file; a file that cannot be read counts as missing. -/
def readBytes (path : String) : IO (Except Errno (List UInt8)) := do
  match ← (IO.FS.readBinFile path).toBaseIO with
  | .ok content => return .ok content.toList
  | .error _ => return .error .missing

def readVitals : IO Vitals := do
  let release ← readBytes "/proc/sys/kernel/osrelease"
  let status ← readBytes statusFile
  return { release := (release.toOption.getD []).takeWhile (· != 0x0A), status, modeReply := 0 }

end SeccompBootstrap.Terminal

open SeccompBootstrap in
def main (args : List String) : IO UInt32 := do
  let files : FileTree := { files := [], workingDirectory := [] }
  let host : Cli.Host :=
    { linking := { files, directories := [], program := [] }, vitals := ← Terminal.readVitals }
  let ending := Cli.run host (← Terminal.readVariables Terminal.namedVariables) (args.map .ofString)
  (← IO.getStdout).write ⟨ending.stdout.toArray⟩
  (← IO.getStderr).write ⟨ending.stderr.toArray⟩
  return .ofNat ending.exitStatus
