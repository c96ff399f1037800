import SeccompBootstrap.Activation
import SeccompBootstrap.Text.Terminal

/-!
Reading the command line. The first argument selects a command. The run command takes options with
values, a workload and up to three more values by place, and after `--` the workload's arguments.
The three values may begin with a dash. An argument takes effect when the next one begins, so of
several errors the one that comes to light first is reported. Only the first line of what is said
about misuse is modelled, with emphasis for a terminal.
-/

set_option autoImplicit false
set_option relaxedAutoImplicit false

namespace SeccompBootstrap.Cli

open Text (alarm doubtful literal)
open Text.Utf8 (decode? decodeLossy)

def purpose : String := "Fail-open seccomp bootstrap for untrusted code runners"

inductive RunOption where
  | runtime
  | library
  | symbol
  deriving DecidableEq, Repr

namespace RunOption

/-- Every option, in the order in which the environment is asked for their values. -/
def all : List RunOption := [.runtime, .library, .symbol]

def name : RunOption → String
  | .runtime => "runtime"
  | .library => "library"
  | .symbol => "symbol"

def valueName : RunOption → String
  | .runtime => "RUNTIME"
  | .library => "LIBRARY"
  | .symbol => "SYMBOL"

def envName (option : RunOption) : String :=
  "GATEHOUSE_" ++ option.valueName

def flag (option : RunOption) : String :=
  "--" ++ option.name

def placeholder (option : RunOption) : String :=
  "<" ++ option.valueName ++ ">"

/-- An option with its value as errors show it. -/
def usage (option : RunOption) : String :=
  option.flag ++ " " ++ option.placeholder

end RunOption

inductive UsageError where
  | noCommand
  | unknownCommand (shown : String)
  | unexpectedArgument (shown : String)
  | unexpectedValue (shown : String) (option : String)
  | valueMissing (option : RunOption)
  | repeated (option : RunOption)
  | invalidText
  | workloadMissing
  deriving DecidableEq, Repr

def UsageError.complaint : UsageError → String
  | .noCommand => purpose
  | .unknownCommand shown => "unrecognized subcommand '" ++ doubtful shown ++ "'"
  | .unexpectedArgument shown => "unexpected argument '" ++ doubtful shown ++ "' found"
  | .unexpectedValue shown option =>
    "unexpected value '" ++ doubtful shown ++ "' for '" ++ literal option ++
      "' found; no more were expected"
  | .valueMissing option =>
    "a value is required for '" ++ doubtful option.usage ++ "' but none was supplied"
  | .repeated option =>
    "the argument '" ++ doubtful option.usage ++ "' cannot be used multiple times"
  | .invalidText => "invalid UTF-8 was detected in one or more arguments"
  | .workloadMissing => "the following required arguments were not provided:"

/-- What is said about an error. Without a command the program's help is shown, which begins with
its purpose. -/
def UsageError.message (error : UsageError) : String :=
  if error = .noCommand then error.complaint else alarm "error:" ++ " " ++ error.complaint

/-- The first line of a text, without a carriage return before its line end. -/
def firstLine (text : String) : String :=
  let line := text.toList.takeWhile (· != '\n')
  .ofList (if line.getLast? = some '\r' then line.dropLast else line)

structure RunRequest where
  runtime : String
  library : Path
  symbol : String
  workload : String
  uid : Option String
  gid : Option String
  options : Option String
  args : List String
  deriving DecidableEq, Repr

inductive Topic where
  | program
  | run
  | probe
  | help
  deriving DecidableEq, Repr

inductive Request where
  | run (request : RunRequest)
  | probe
  | help (topic : Topic)
  | version
  deriving DecidableEq, Repr

/-- How an argument reads as long as options are recognized. A long option is split at its first
equals sign; a cluster of short ones is kept whole. -/
inductive Token where
  | separator
  | long (name : List UInt8) (value : Option (List UInt8))
  | short (flags : List UInt8)
  | word
  deriving DecidableEq, Repr

def dash : UInt8 := 0x2D

def equals : UInt8 := 0x3D

def Token.ofLong (body : List UInt8) : Token :=
  match body.dropWhile (· != equals) with
  | [] => .long body none
  | _ :: value => .long (body.takeWhile (· != equals)) (some value)

def Token.ofArgument (argument : Argument) : Token :=
  match argument.bytes with
  | 0x2D :: 0x2D :: [] => .separator
  | 0x2D :: 0x2D :: body => .ofLong body
  | 0x2D :: flag :: flags => .short (flag :: flags)
  | _ => .word

def longShown (name : List UInt8) : String :=
  "--" ++ decodeLossy name

/-- The first flag of a cluster, and the whole of what is left if it does not begin with a
character. -/
def firstFlag (flags : List UInt8) : Option Char × String :=
  match Text.Utf8.units flags with
  | some c :: _ => (some c, "-" ++ String.singleton c)
  | _ => (none, "-" ++ decodeLossy flags)

def refuse {α : Type} (shown : String) : Except UsageError α :=
  .error (.unexpectedArgument shown)

structure Given where
  runtime : Option String
  library : Option Path
  symbol : Option String
  workload : Option String
  uid : Option String
  gid : Option String
  options : Option String
  args : List String
  deriving DecidableEq, Repr

def Given.nothing : Given :=
  { runtime := none, library := none, symbol := none, workload := none, uid := none, gid := none
    options := none, args := [] }

def textValue (value : List UInt8) : Except UsageError String :=
  match decode? value with
  | some text => .ok text
  | none => .error .invalidText

namespace Given

def has (given : Given) : RunOption → Bool
  | .runtime => given.runtime.isSome
  | .library => given.library.isSome
  | .symbol => given.symbol.isSome

/-- Gives an option its value. A library is named by any bytes but none. -/
def setOption (given : Given) (option : RunOption) (value : List UInt8) :
    Except UsageError Given :=
  match option with
  | .runtime => do return { given with runtime := some (← textValue value) }
  | .library =>
    if value.isEmpty then .error (.valueMissing .library)
    else .ok { given with library := some ⟨value⟩ }
  | .symbol => do return { given with symbol := some (← textValue value) }

def setPlace (given : Given) (place : Nat) (value : List UInt8) : Except UsageError Given := do
  let text ← textValue value
  match place with
  | 1 => return { given with workload := some text }
  | 2 => return { given with uid := some text }
  | 3 => return { given with gid := some text }
  | _ => return { given with options := some text }

def setArgs (given : Given) (values : List (List UInt8)) : Except UsageError Given := do
  return { given with args := ← values.mapM textValue }

end Given

/-- What has been read and has not taken effect yet. -/
inductive Unsettled where
  | nothing
  | option (option : RunOption) (value : Option (List UInt8))
  | place (place : Nat) (value : List UInt8)
  | args (values : List (List UInt8))
  deriving DecidableEq, Repr

/-- How far the arguments of a run have been read: whether `--` has passed, and which place comes
next. -/
structure Progress where
  given : Given
  unsettled : Unsettled
  place : Nat
  separated : Bool
  deriving DecidableEq, Repr

def lastPlace : Nat := 4

namespace Progress

def start : Progress :=
  { given := .nothing, unsettled := .nothing, place := 1, separated := false }

def settle (progress : Progress) : Except UsageError Progress := do
  let given ← match progress.unsettled with
    | .nothing => .ok progress.given
    | .option option none => .error (.valueMissing option)
    | .option option (some value) =>
      if progress.given.has option then .error (.repeated option)
      else progress.given.setOption option value
    | .place place value => progress.given.setPlace place value
    | .args values => progress.given.setArgs values
  return { progress with given, unsettled := .nothing }

/-- Whether the next place takes values that begin with a dash. -/
def takesDashes (progress : Progress) : Bool :=
  2 ≤ progress.place && progress.place ≤ lastPlace

def takePlace (progress : Progress) (argument : Argument) : Except UsageError Progress :=
  if progress.separated then
    match progress.unsettled with
    | .args values => .ok { progress with unsettled := .args (values ++ [argument.bytes]) }
    | _ => do return { ← progress.settle with unsettled := .args [argument.bytes] }
  else if lastPlace < progress.place then refuse argument.display
  else do
    return { ← progress.settle with
      unsettled := .place progress.place argument.bytes, place := progress.place + 1 }

/-- Takes an argument as a value, of an option if one waits for it. -/
def takeValue (progress : Progress) (argument : Argument) : Except UsageError Progress :=
  match progress.unsettled with
  | .option option none =>
    .ok { progress with unsettled := .option option (some argument.bytes) }
  | _ => progress.takePlace argument

inductive Onward where
  | more (progress : Progress)
  | help
  deriving DecidableEq, Repr

def help (progress : Progress) : Except UsageError Onward := do
  let _ ← progress.settle
  return .help

/-- Reads an option that takes a value, which may be attached to it. -/
def takeOption (progress : Progress) (option : RunOption) (attached : Option (List UInt8)) :
    Except UsageError Progress := do
  let opened := { ← progress.settle with unsettled := .option option attached }
  if attached.isSome then opened.settle else return opened

def takeLong (progress : Progress) (argument : Argument) (name : List UInt8)
    (attached : Option (List UInt8)) : Except UsageError Onward :=
  match decode? name with
  | none => refuse (longShown name)
  | some text =>
    match RunOption.all.find? (·.name = text) with
    | some option => do return .more (← progress.takeOption option attached)
    | none =>
      if text = "help" then
        match attached with
        | some value => .error (.unexpectedValue (decodeLossy value) "--help")
        | none => progress.help
      else if progress.takesDashes then do return .more (← progress.takeValue argument)
      else refuse (longShown name)

def helpFlag : UInt8 := 0x68

def takeShort (progress : Progress) (argument : Argument) (flags : List UInt8) :
    Except UsageError Onward :=
  if progress.takesDashes && flags.any (· != helpFlag) then do
    return .more (← progress.takeValue argument)
  else
    match firstFlag flags with
    | (some 'h', _) => progress.help
    | (_, shown) => refuse shown

def step (progress : Progress) (argument : Argument) : Except UsageError Onward :=
  if progress.separated then do return .more (← progress.takePlace argument)
  else
    match Token.ofArgument argument with
    | .separator => .ok (.more { progress with separated := true })
    | .long name attached => progress.takeLong argument name attached
    | .short flags => progress.takeShort argument flags
    | .word => do return .more (← progress.takeValue argument)

end Progress

/-- Fills in the options that the environment gives and no argument did. -/
def Given.fillIn (env : RawEnvironment) (given : Given) : Except UsageError Given :=
  RunOption.all.foldlM
    (fun given option =>
      if given.has option then .ok given
      else match env.get? option.envName with
        | none => .ok given
        | some value => given.setOption option value)
    given

def Given.request (given : Given) : Except UsageError RunRequest :=
  match given.workload with
  | none => .error .workloadMissing
  | some workload =>
    .ok { runtime := given.runtime.getD defaultRuntime
          library := given.library.getD (.ofString defaultLibraryPath)
          symbol := given.symbol.getD defaultEntrySymbol
          workload, uid := given.uid, gid := given.gid, options := given.options
          args := given.args }

def readRun (env : RawEnvironment) (progress : Progress) : List Argument → Except UsageError Request
  | [] => do return .run (← (← (← progress.settle).given.fillIn env).request)
  | argument :: rest => do
    match ← progress.step argument with
    | .help => return .help .run
    | .more progress => readRun env progress rest

def readHelpOption (topic : Topic) (name : List UInt8) (attached : Option (List UInt8)) :
    Except UsageError Request :=
  if decode? name = some "help" then
    match attached with
    | some value => .error (.unexpectedValue (decodeLossy value) "--help")
    | none => .ok (.help topic)
  else refuse (longShown name)

def readProbe : List Argument → Except UsageError Request
  | [] => .ok .probe
  | argument :: rest =>
    match Token.ofArgument argument with
    | .separator =>
      match rest with
      | [] => .ok .probe
      | next :: _ => refuse next.display
    | .long name attached => readHelpOption .probe name attached
    | .short flags =>
      match firstFlag flags with
      | (some 'h', _) => .ok (.help .probe)
      | (_, shown) => refuse shown
    | .word => refuse argument.display

def command? (argument : Argument) : Option Topic :=
  match argument.text? with
  | some "run" => some .run
  | some "probe" => some .probe
  | some "help" => some .help
  | _ => none

/-- Reads what help is asked about. No command has commands of its own. -/
def readHelp : List Argument → Except UsageError Request
  | [] => .ok (.help .program)
  | argument :: rest =>
    match command? argument with
    | none => .error (.unknownCommand argument.display)
    | some topic =>
      match rest with
      | [] => .ok (.help topic)
      | next :: _ => .error (.unknownCommand next.display)

def readLeadingOption (name : List UInt8) (attached : Option (List UInt8)) :
    Except UsageError Request :=
  if decode? name = some "version" then
    match attached with
    | some value => .error (.unexpectedValue (decodeLossy value) "--version")
    | none => .ok .version
  else readHelpOption .program name attached

def readArguments (env : RawEnvironment) : List Argument → Except UsageError Request
  | [] => .error .noCommand
  | argument :: rest =>
    match command? argument with
    | some .run => readRun env .start rest
    | some .probe => readProbe rest
    | some _ => readHelp rest
    | none =>
      match Token.ofArgument argument with
      | .separator =>
        match rest with
        | [] => .error .noCommand
        | next :: _ =>
          if (command? next).isSome then refuse next.display
          else .error (.unknownCommand next.display)
      | .long name attached => readLeadingOption name attached
      | .short flags =>
        match firstFlag flags with
        | (some 'h', _) => .ok (.help .program)
        | (some 'V', _) => .ok .version
        | (_, shown) => refuse shown
      | .word => .error (.unknownCommand argument.display)

end SeccompBootstrap.Cli
