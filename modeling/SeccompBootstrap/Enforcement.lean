import SeccompBootstrap.Linker
import SeccompBootstrap.Session

/-!
Enforcement. Through the entry point of a shared library, a process makes at most one native call,
whatever libraries it loads: a latch, which can be claimed once, is claimed right before the call
and stays claimed. Ids that the entry point's integers cannot hold are refused before that. After a
script, for rehearsals, every load and every call ends as the script has it by number. A `LatchBank`
holds a latch under every number, for callers that share several of them.
-/

set_option autoImplicit false
set_option relaxedAutoImplicit false

namespace SeccompBootstrap

structure Latch where
  claimed : Bool
  deriving DecidableEq, Repr

namespace Latch

def fresh : Latch := ⟨false⟩

/-- Claims a latch: whether this was the first claim, and the latch after it. -/
def tryClaim (latch : Latch) : Bool × Latch :=
  (!latch.claimed, ⟨true⟩)

end Latch

/-- What a caller does to one latch of a bank. -/
inductive LatchOperation where
  | claim (index : Nat)
  | query (index : Nat)
  | renew (index : Nat)
  deriving DecidableEq, Repr

structure LatchBank where
  latch : Nat → Latch

namespace LatchBank

def fresh : LatchBank := ⟨fun _ => .fresh⟩

def put (bank : LatchBank) (index : Nat) (latch : Latch) : LatchBank :=
  ⟨fun i => if i = index then latch else bank.latch i⟩

def step (bank : LatchBank) : LatchOperation → Option Bool × LatchBank
  | .claim index =>
    let (first, latch) := (bank.latch index).tryClaim
    (some first, bank.put index latch)
  | .query index => (some (bank.latch index).claimed, bank)
  | .renew index => (none, bank.put index .fresh)

/-- The answers of operations in order, and the bank after them. -/
def run (bank : LatchBank) : List LatchOperation → List (Option Bool) × LatchBank
  | [] => ([], bank)
  | operation :: rest =>
    let (answer, bank) := bank.step operation
    let (answers, bank) := bank.run rest
    (answer :: answers, bank)

end LatchBank

structure NativeCall (ε : Type) where
  entry : ε
  uid : Int
  gid : Int
  enableNetwork : Bool
  deriving DecidableEq, Repr

/-- What a process remembers of linking and calling; the calls are in order. -/
structure NativeWorld (ρ ε : Type) where
  linker : LinkerState ρ
  latch : Latch
  calls : List (NativeCall ε)
  deriving DecidableEq, Repr

def NativeWorld.fresh {ρ ε : Type} : NativeWorld ρ ε :=
  { linker := .fresh, latch := .fresh, calls := [] }

namespace NativeWorld

variable {ρ ε : Type}

def claim (process : NativeWorld ρ ε) : Bool × NativeWorld ρ ε :=
  let (first, latch) := process.latch.tryClaim
  (first, { process with latch })

def call (call : NativeCall ε) (process : NativeWorld ρ ε) : Unit × NativeWorld ρ ε :=
  ((), { process with calls := process.calls ++ [call] })

def link {α : Type} (steps : StateM (LinkerState ρ) α) (process : NativeWorld ρ ε) :
    α × NativeWorld ρ ε :=
  let (result, linker) := steps process.linker
  (result, { process with linker })

/-- Linker steps as a step of the process, which fails with their error. -/
def linking {α : Type} (steps : StateM (LinkerState ρ) (Except LinkError α)) :
    Action (NativeWorld ρ ε) LinkError α := do
  Action.ofExcept (← Action.act (link steps))

end NativeWorld

def nativeId (name : String) (id : UInt32) : Except EnforcementError Int :=
  if fitsInt32 id then .ok id.toNat
  else .error (.native (name ++ " " ++ toString id.toNat ++ " does not fit a C int"))

def Binding.ofEntry {ρ ε : Type} (symbol : String) (entry : ε) : Binding (NativeWorld ρ ε) where
  enforce uid gid enableNetwork := do
    let uid ← Action.ofExcept (nativeId "uid" uid)
    let gid ← Action.ofExcept (nativeId "gid" gid)
    if ← Action.act NativeWorld.claim then
      Action.emit (.callingEntry symbol uid gid enableNetwork)
      Action.act (NativeWorld.call { entry, uid, gid, enableNetwork })
    else Action.fail .alreadyAttempted

namespace Loader

variable {ρ ε : Type}

/-- Loads the library at a path and binds the entry under a name in it. -/
def ofLibrary (linker : Linker ρ ε) (path : Path) (symbol : String) :
    Loader (NativeWorld ρ ε) LinkError where
  load := do
    Action.emit (.loadingLibrary path.display)
    let library ← NativeWorld.linking (linker.openLibrary path)
    let entry ← NativeWorld.linking (linker.resolve library symbol pointerSize)
    Action.emit (.entryResolved symbol)
    return .ofEntry symbol entry
  describe := LinkError.message

def ofConfig (linker : Linker ρ ε) (config : Config) : Loader (NativeWorld ρ ε) LinkError :=
  ofLibrary linker config.libraryPath config.entrySymbol

end Loader

/-- How a scripted step ends: well, or with a trouble. -/
inductive Behaviour (ε : Type) where
  | succeed
  | trouble (trouble : Trouble ε)
  deriving DecidableEq, Repr

/-- The end of every load and of every call, numbered from zero. -/
structure Script where
  load : Nat → Behaviour LinkError
  call : Nat → Behaviour EnforcementError

/-- Behaviours by number: those of a list, the last of which repeats; success for an empty list. -/
def Behaviour.ofList {ε : Type} (behaviours : List (Behaviour ε)) (index : Nat) : Behaviour ε :=
  match behaviours[index]? with
  | some behaviour => behaviour
  | none => behaviours.getLast?.getD .succeed

def Script.succeeding : Script :=
  { load := fun _ => .succeed, call := fun _ => .succeed }

structure RecordedCall where
  uid : UInt32
  gid : UInt32
  enableNetwork : Bool
  deriving DecidableEq, Repr

/-- What a rehearsal remembers: the number of loads and the calls in order. -/
structure Record where
  loads : Nat
  calls : List RecordedCall
  deriving DecidableEq, Repr

def Record.empty : Record :=
  { loads := 0, calls := [] }

namespace Record

def countLoad (record : Record) : Nat × Record :=
  (record.loads, { record with loads := record.loads + 1 })

def addCall (call : RecordedCall) (record : Record) : Nat × Record :=
  (record.calls.length, { record with calls := record.calls ++ [call] })

end Record

def Behaviour.perform {σ ε : Type} : Behaviour ε → Action σ ε Unit
  | .succeed => pure ()
  | .trouble (.failure error) => Action.fail error
  | .trouble (.panic payload) => Action.panic payload

def Script.binding (script : Script) : Binding Record where
  enforce uid gid enableNetwork := do
    let number ← Action.act (Record.addCall { uid, gid, enableNetwork })
    (script.call number).perform

def Script.loader (script : Script) : Loader Record LinkError where
  load := do
    let number ← Action.act Record.countLoad
    (script.load number).perform
    return script.binding
  describe := LinkError.message

end SeccompBootstrap
