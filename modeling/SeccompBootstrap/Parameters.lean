import SeccompBootstrap.Json.Reader

/-!
The parameters of an enforcement call, read from the positions 2, 3 and 4 of an argument vector:
user id, group id and capability options. Reading stops at the first field that is invalid. An id
is a plain decimal number that fits a signed integer of 32 bits. The options are a JSON object whose
keys name capabilities: one that the object does not name is off, other keys are ignored, and of
repeated keys the last one counts.
-/

set_option autoImplicit false
set_option relaxedAutoImplicit false

namespace SeccompBootstrap

/-- A toggle that the enforcement library understands. -/
inductive Capability where
  | network
  deriving DecidableEq, Repr

namespace Capability

def all : List Capability := [.network]

/-- The key of a capability in a JSON object, which is also its name. -/
def key : Capability → String
  | .network => "enable_network"

end Capability

structure Capabilities where
  enableNetwork : Bool
  deriving DecidableEq, Repr

namespace Capabilities

def none : Capabilities := ⟨false⟩

def isEnabled (c : Capabilities) : Capability → Bool
  | .network => c.enableNetwork

def set (c : Capabilities) (capability : Capability) (enabled : Bool) : Capabilities :=
  match capability with
  | .network => { c with enableNetwork := enabled }

def toJson (c : Capabilities) : String :=
  "\x7b\"enable_network\":" ++ toString c.enableNetwork ++ "\x7d"

/-- The toggles that the members of an object set. A value that is no truth value is refused; as it
has been read already, the refusal has no place. -/
def ofMembers (members : List (String × Json.Value)) : Except Json.Failure Capabilities :=
  match Json.lastMember? members Capability.network.key with
  | Option.none => .ok none
  | some (.boolean b) => .ok ⟨b⟩
  | some value => .error ⟨.invalidType value.found "a boolean", Option.none⟩

def ofJson (text : String) : Except String Capabilities :=
  match Json.parse text with
  | .error failure => .error failure.message
  | .ok (.object members) => (ofMembers members).mapError Json.Failure.message
  | .ok _ => .error ("expected a JSON object, got " ++ Text.quote text)

end Capabilities

def greatestId : Nat := 2147483647

def fitsInt32 (id : UInt32) : Bool :=
  id.toNat ≤ greatestId

inductive ParameterError where
  | missing (position : Nat) (name : String)
  | invalidId (name : String) (value : String)
  | outOfRange (name : String) (value : UInt32)
  | invalidCapabilities (reason : String)
  deriving DecidableEq, Repr

def outOfRangeMessage (name : String) (value : UInt32) : String :=
  name ++ " " ++ toString value.toNat ++ " exceeds the native int32 range"

def ParameterError.message : ParameterError → String
  | .missing position name => "missing " ++ name ++ " at argument position " ++ toString position
  | .invalidId name value =>
    name ++ " is not a base-10 non-negative integer: " ++ Text.quote value
  | .outOfRange name value => outOfRangeMessage name value
  | .invalidCapabilities reason => "invalid capability options: " ++ reason

structure Parameters where
  uid : UInt32
  gid : UInt32
  capabilities : Capabilities
  deriving DecidableEq, Repr

namespace Parameters

def uidPosition : Nat := 2

def gidPosition : Nat := 3

def capabilitiesPosition : Nat := 4

def argument (argv : List String) (position : Nat) (name : String) :
    Except ParameterError String :=
  match argv[position]? with
  | some value => .ok value
  | none => .error (.missing position name)

def readId (name : String) (text : String) : Except ParameterError UInt32 :=
  match Text.ofDigits? text.toList with
  | none => .error (.invalidId name text)
  | some n =>
    if UInt32.size ≤ n then .error (.invalidId name text)
    else if greatestId < n then .error (.outOfRange name (.ofNat n))
    else .ok (.ofNat n)

def idAt (argv : List String) (position : Nat) (name : String) :
    Except ParameterError UInt32 := do
  readId name (← argument argv position name)

def capabilitiesAt (argv : List String) : Except ParameterError Capabilities := do
  let text ← argument argv capabilitiesPosition "capabilities"
  (Capabilities.ofJson text).mapError .invalidCapabilities

def ofArguments (argv : List String) : Except ParameterError Parameters := do
  let uid ← idAt argv uidPosition "uid"
  let gid ← idAt argv gidPosition "gid"
  let capabilities ← capabilitiesAt argv
  return { uid, gid, capabilities }

end Parameters

end SeccompBootstrap
