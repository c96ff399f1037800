import SeccompBootstrap.Cli.Arguments

/-!
The help of the program and of its commands, and how the program's own texts are presented when
nobody looks at a terminal: without emphasis and without what would steer one, unless the
environment insists on emphasis. The help of the run command shows the environment's current values
of its options.
-/

set_option autoImplicit false
set_option relaxedAutoImplicit false

namespace SeccompBootstrap.Cli

def isGiven (env : RawEnvironment) (name : String) : Bool :=
  (env.get? name).any (!·.isEmpty)

/-- Whether the environment insists on emphasis, which any value does. A refusal counts more. -/
def insistsOnEmphasis (env : RawEnvironment) : Bool :=
  isGiven env "CLICOLOR_FORCE" && !isGiven env "NO_COLOR"

def present (env : RawEnvironment) (text : String) : String :=
  if insistsOnEmphasis env then text else Text.withoutControls text

open Text (heading literal)

def version : String := "gatehouse 0.1.0\n"

def lines (list : List String) : String :=
  String.join (list.map (· ++ "\n"))

def spaces (count : Nat) : String :=
  .ofList (List.replicate count ' ')

def usageLine (command : String) (rest : String) : String :=
  heading "Usage:" ++ " " ++ literal command ++ rest

def flagLine (short long : String) (gap : Nat) (purpose : String) : String :=
  "  " ++ literal short ++ ", " ++ literal long ++ spaces gap ++ purpose

def helpLine (gap : Nat) : String :=
  flagLine "-h" "--help" gap "Print help"

def commandLine (name : String) (gap : Nat) (purpose : String) : String :=
  "  " ++ literal name ++ spaces gap ++ purpose

def programHelp : String :=
  lines
    [purpose,
      "",
      usageLine "gatehouse" " <COMMAND>",
      "",
      heading "Commands:",
      commandLine "run" 4 "Attempt seccomp enforcement, then exec the workload",
      commandLine "probe" 2 "Report host seccomp support and the current mode",
      commandLine "help" 3 "Print this message or the help of the given subcommand(s)",
      "",
      heading "Options:",
      helpLine 5,
      flagLine "-V" "--version" 2 "Print version"]

def probeHelp : String :=
  lines
    ["Report host seccomp support and the current mode",
      "",
      usageLine "gatehouse probe" "",
      "",
      heading "Options:",
      helpLine 2]

def helpHelp : String :=
  lines
    ["Print this message or the help of the given subcommand(s)",
      "",
      usageLine "gatehouse help" " [COMMAND]...",
      "",
      heading "Arguments:",
      "  [COMMAND]...  Print help for the subcommand(s)"]

def optionWidth : Nat := 27

def optionPurpose : RunOption → String
  | .runtime => "Runtime label used in DISABLE_<RUNTIME>_SECCOMP"
  | .library => "Enforcement library"
  | .symbol => "Exported entry point"

def optionDefault : RunOption → String
  | .runtime => defaultRuntime
  | .library => defaultLibraryPath
  | .symbol => defaultEntrySymbol

def hanging (text : String) : String :=
  .ofList (text.toList.flatMap fun c =>
    if c = '\n' then '\n' :: List.replicate optionWidth ' ' else [c])

def optionHelp (env : RawEnvironment) (option : RunOption) : String :=
  let margin := 6
  let value := Text.Utf8.decodeLossy ((env.get? option.envName).getD [])
  spaces margin ++ literal option.flag ++ " " ++ option.placeholder ++
    spaces (optionWidth - margin - option.usage.length) ++
    hanging (optionPurpose option ++ " [env: " ++ option.envName ++ "=" ++ value ++
      "] [default: " ++ optionDefault option ++ "]")

def runHelp (env : RawEnvironment) : String :=
  lines <|
    ["Attempt seccomp enforcement, then exec the workload",
      "",
      usageLine "gatehouse run" (" [OPTIONS] <WORKLOAD> [UID] [GID] [OPTIONS] " ++ literal "[--" ++
        " <ARGS>..." ++ literal "]"),
      "",
      heading "Arguments:",
      "  <WORKLOAD>  Program to exec once the bootstrap has finished",
      "  [UID]       Sandbox user id",
      "  [GID]       Sandbox group id",
      "  [OPTIONS]   Capability options as JSON, e.g. \x7b\"enable_network\": false\x7d",
      "  [ARGS]...   Arguments passed to the workload",
      "",
      heading "Options:"] ++
    RunOption.all.map (optionHelp env) ++
    [helpLine 15]

def help (env : RawEnvironment) : Topic → String
  | .program => programHelp
  | .run => runHelp env
  | .probe => probeHelp
  | .help => helpHelp

end SeccompBootstrap.Cli
