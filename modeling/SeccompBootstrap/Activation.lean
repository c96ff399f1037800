import SeccompBootstrap.Environment

/-!
Configuration of a bootstrap, and whether enforcement is attempted at all. The label of the runtime
names the flag that turns enforcement off, `DISABLE_<RUNTIME>_SECCOMP`; the label is normalized
first, so spellings that differ in surrounding white space, in ASCII case or in `-` for `_` name one
flag. Two flags of the environment opt out, each only with the exact value `true`; the flag of the
runtime wins over the one for debugging.
-/

set_option autoImplicit false
set_option relaxedAutoImplicit false

namespace SeccompBootstrap

def normalizeLabelChar (c : Char) : Char :=
  if c = '-' then '_' else c.toUpper

def normalizeLabel (label : String) : String :=
  String.ofList ((Text.trimChars label.toList).map normalizeLabelChar)

/-- The name of the flag that turns enforcement off for a runtime. -/
def disableVar (label : String) : String :=
  "DISABLE_" ++ normalizeLabel label ++ "_SECCOMP"

/-- The name of the flag that skips enforcement for debugging, in every runtime. -/
def skipVar : String := "SKIP_SECCOMP"

def defaultRuntime : String := "NODEJS"

def defaultLibraryPath : String := "./var/sandbox/sandbox-nodejs/nodejs.so"

def defaultEntrySymbol : String := "DifySeccomp"

/-- Which runtime a bootstrap serves and where its enforcement library lives. -/
structure Config where
  runtime : String
  libraryPath : Path
  entrySymbol : String
  deriving DecidableEq, Repr

namespace Config

def default : Config :=
  { runtime := defaultRuntime
    libraryPath := .ofString defaultLibraryPath
    entrySymbol := defaultEntrySymbol }

inductive Setting where
  | runtime (label : String)
  | libraryPath (path : Path)
  | entrySymbol (symbol : String)
  deriving DecidableEq, Repr

def set (config : Config) : Setting → Config
  | .runtime label => { config with runtime := normalizeLabel label }
  | .libraryPath path => { config with libraryPath := path }
  | .entrySymbol symbol => { config with entrySymbol := symbol }

def build (settings : List Setting) : Config :=
  settings.foldl set default

/-- The name of the flag that turns this bootstrap off. -/
def disableVar (config : Config) : String :=
  SeccompBootstrap.disableVar config.runtime

/-- Whether two configurations agree, their paths by components. -/
def agrees (a b : Config) : Bool :=
  a.runtime == b.runtime && a.libraryPath.agrees b.libraryPath && a.entrySymbol == b.entrySymbol

end Config

inductive ActivationMode where
  | disabled
  | debugSkip
  | active
  deriving DecidableEq, Repr

namespace ActivationMode

def resolve (env : Environment) (config : Config) : ActivationMode :=
  if env.isTrue config.disableVar then .disabled
  else if env.isTrue skipVar then .debugSkip
  else .active

def name : ActivationMode → String
  | .disabled => "Disabled"
  | .debugSkip => "DebugSkip"
  | .active => "Active"

end ActivationMode

end SeccompBootstrap
