import SeccompBootstrap.Activation
import SeccompBootstrap.Parameters

/-!
How a bootstrap run ends, the one line that reports it, and the events that a bootstrap and a launch
emit for logs. Events are kept as they are emitted; which of them a log shows, and in what form, is
left to whoever subscribes to them.
-/

set_option autoImplicit false
set_option relaxedAutoImplicit false

namespace SeccompBootstrap

/-- The end of a bootstrap run: skipped by a flag, enforced, or degraded because the library could
not be loaded or the call could not be made. -/
inductive Outcome where
  | disabled (var : String)
  | debugSkip (var : String)
  | enforced (parameters : Parameters)
  | loadFailure (detail : String)
  | initFailure (detail : String)
  deriving DecidableEq, Repr

namespace Outcome

/-- Whether a filter was installed. -/
def isProtected : Outcome → Bool
  | .enforced _ => true
  | _ => false

/-- Whether enforcement was wanted and did not happen. -/
def isDegraded : Outcome → Bool
  | .loadFailure _ => true
  | .initFailure _ => true
  | _ => false

def label : Outcome → String
  | .disabled _ => "disabled"
  | .debugSkip _ => "debug-skip"
  | .enforced _ => "success"
  | .loadFailure _ => "load-failure"
  | .initFailure _ => "init-failure"

def unprotectedRemark : String := "; continuing without seccomp protection"

def line : Outcome → String
  | .disabled var => "seccomp: disabled via " ++ var
  | .debugSkip var => "seccomp: debug-skip via " ++ var
  | .enforced p =>
    "seccomp: success (uid=" ++ toString p.uid.toNat ++ " gid=" ++ toString p.gid.toNat ++
      " network=" ++ toString p.capabilities.enableNetwork ++ ")"
  | .loadFailure detail => "seccomp: load failure: " ++ detail ++ unprotectedRemark
  | .initFailure detail => "seccomp: init/enforcement failure: " ++ detail ++ unprotectedRemark

end Outcome

inductive Level where
  | debug
  | info
  deriving DecidableEq, Repr

inductive Event where
  | modeResolved (mode : ActivationMode) (runtime : String)
  | loadingLibrary (path : String)
  | entryResolved (symbol : String)
  | parametersParsed (parameters : Parameters)
  | callingEntry (symbol : String) (uid gid : Int) (enableNetwork : Bool)
  | finished (label : String) (isProtected : Bool)
  | streamUnavailable (reason : String)
  | launchDisabled (var : String)
  | launchSkips
  deriving DecidableEq, Repr

namespace Event

inductive FieldValue where
  | text (value : String)
  | number (value : Int)
  | flag (value : Bool)
  deriving DecidableEq, Repr

def level : Event → Level
  | .launchDisabled _ => .info
  | _ => .debug

def message : Event → String
  | .modeResolved _ _ => "activation mode resolved"
  | .loadingLibrary _ => "loading enforcement library"
  | .entryResolved _ => "resolved enforcement entry point"
  | .parametersParsed _ => "enforcement parameters parsed"
  | .callingEntry _ _ _ _ => "calling enforcement entry point"
  | .finished _ _ => "bootstrap finished"
  | .streamUnavailable _ => "diagnostic stream unavailable"
  | .launchDisabled _ => "seccomp disabled for launched runtime"
  | .launchSkips => "skipping seccomp for launched runtime"

def fields : Event → List (String × FieldValue)
  | .modeResolved mode runtime => [("mode", .text mode.name), ("runtime", .text runtime)]
  | .loadingLibrary path => [("path", .text path)]
  | .entryResolved symbol => [("symbol", .text symbol)]
  | .parametersParsed p =>
    [("uid", .number p.uid.toNat), ("gid", .number p.gid.toNat),
      ("enable_network", .flag p.capabilities.enableNetwork)]
  | .callingEntry symbol uid gid enableNetwork =>
    [("symbol", .text symbol), ("uid", .number uid), ("gid", .number gid),
      ("enable_network", .flag enableNetwork)]
  | .finished label isProtected => [("outcome", .text label), ("protected", .flag isProtected)]
  | .streamUnavailable reason => [("error", .text reason)]
  | .launchDisabled var => [("var", .text var)]
  | .launchSkips => []

end Event

end SeccompBootstrap
