import SeccompBootstrap.Host.FileTree
import SeccompBootstrap.Text.Quoted

/-!
Probing a host: its kernel version, whether it knows seccomp, and the mode the process runs in. The
version is read from the kernel's release text, the mode from the `Seccomp:` line of the process's
status file.
-/

set_option autoImplicit false
set_option relaxedAutoImplicit false

namespace SeccompBootstrap

inductive SeccompMode where
  | disabled
  | strict
  | filter
  deriving DecidableEq, Repr

def SeccompMode.name : SeccompMode → String
  | .disabled => "disabled"
  | .strict => "strict"
  | .filter => "filter"

inductive ProbeError where
  | versionUnreadable
  | statusUnreadable (reason : String)
  | modeMissing
  | unknownMode (value : String)
  deriving DecidableEq, Repr

def statusFile : String := "/proc/self/status"

def ProbeError.message : ProbeError → String
  | .versionUnreadable => "failed to read kernel version"
  | .statusUnreadable reason => "failed to read " ++ statusFile ++ ": " ++ reason
  | .modeMissing => "no Seccomp field in " ++ statusFile
  | .unknownMode value => "unknown seccomp mode " ++ Text.quote value

structure KernelVersion where
  major : UInt32
  minor : UInt32
  patch : UInt32
  deriving DecidableEq, Repr

/-- What a host shows to a probe: the kernel's release, the content of the status file or why it
cannot be opened, and the answer to asking for the seccomp mode. -/
structure Vitals where
  release : List UInt8
  status : Except Errno (List UInt8)
  modeReply : Int

structure ProbeReport where
  kernel : KernelVersion
  available : Bool
  mode : SeccompMode
  deriving DecidableEq, Repr

namespace Probe

/-- The 32-bit number of decimal digits, with or without a plus sign in front. -/
def number? (cs : List Char) : Option UInt32 :=
  let digits := match cs with
    | '+' :: rest => rest
    | _ => cs
  match Text.ofDigits? digits with
  | none => none
  | some n => if n < UInt32.size then some (.ofNat n) else none

/-- The patch level at the start of a part; zero if there is none. -/
def patchLevel (part : List Char) : UInt32 :=
  (number? (part.takeWhile (· != '-'))).getD 0

/-- The version at the start of a release: two numbers, and a patch level that may be missing. -/
def versionOfChars (release : List Char) : Option KernelVersion :=
  match release.splitOnP (· == '.') with
  | major :: minor :: rest => do
    return { major := ← number? major, minor := ← number? minor
             patch := patchLevel (rest.headD []) }
  | _ => none

def releaseLimit : Nat := 64

/-- The version of a release. A release ends before its first zero byte. -/
def kernelVersion (release : List UInt8) : Except ProbeError KernelVersion :=
  let shown := (release.take releaseLimit).takeWhile (· != 0)
  match Text.Utf8.decodeChars? shown >>= versionOfChars with
  | some version => .ok version
  | none => .error .versionUnreadable

def modeField : List Char := "Seccomp:".toList

def modeValue? (status : List Char) : Option (List Char) :=
  (status.splitOnP (· == '\n')).findSome? fun line =>
    if modeField.isPrefixOf line then some (Text.trimChars (line.drop modeField.length)) else none

def modeOfValue (value : List Char) : Except ProbeError SeccompMode :=
  match value with
  | ['0'] => .ok .disabled
  | ['1'] => .ok .strict
  | ['2'] => .ok .filter
  | other => .error (.unknownMode (.ofList other))

def modeOfStatus (status : List Char) : Except ProbeError SeccompMode :=
  match modeValue? status with
  | some value => modeOfValue value
  | none => .error .modeMissing

def currentMode (status : Except Errno (List UInt8)) : Except ProbeError SeccompMode :=
  match status with
  | .error errno => .error (.statusUnreadable errno.message)
  | .ok content =>
    match Text.Utf8.decodeChars? content with
    | some text => modeOfStatus text
    | none => .error (.statusUnreadable "stream did not contain valid UTF-8")

/-- Whether a reply to asking for the mode shows that the kernel knows seccomp. -/
def isAvailable (modeReply : Int) : Bool :=
  0 ≤ modeReply

def check (vitals : Vitals) : Except ProbeError ProbeReport := do
  let kernel ← kernelVersion vitals.release
  let mode ← currentMode vitals.status
  return { kernel, available := isAvailable vitals.modeReply, mode }

end Probe

end SeccompBootstrap
