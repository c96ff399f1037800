import SeccompBootstrap.Environment
import SeccompBootstrap.Text.Quoted

/-!
Opening shared libraries and resolving their symbols through a dynamic linker, which keeps the
objects it opened for good and the message of its last failure until somebody takes it.
`openLibrary` and `resolve` drop a message that is still pending right before they ask the linker,
so the message they report is that of their own call; what they refuse by themselves does not
disturb a pending message.
-/

set_option autoImplicit false
set_option relaxedAutoImplicit false

namespace SeccompBootstrap

inductive LinkError where
  | openFailed (path : Path) (detail : String)
  | symbolMissing (symbol : String) (detail : String)
  | symbolSize (symbol : String) (size : Nat)
  | invalidName (name : String)
  deriving DecidableEq, Repr

def LinkError.message : LinkError → String
  | .openFailed path detail => "failed to load " ++ path.display ++ ": " ++ detail
  | .symbolMissing symbol detail => "symbol " ++ symbol ++ " not found: " ++ detail
  | .symbolSize symbol size =>
    "symbol " ++ symbol ++ " cannot be bound to a type of " ++ toString size ++ " bytes"
  | .invalidName name => "name contains a NUL byte: " ++ Text.quote name

inductive Symbol (ε : Type) where
  | found (entry : ε)
  | null
  | missing (message : String)
  deriving DecidableEq, Repr

/-- The dynamic linker of a host: which paths it opens as objects of type `ρ`, given those that are
open already, which names it resolves in them to entries of type `ε`, and whether a message that
nobody took outlives a success. -/
structure Linker (ρ ε : Type) where
  openObject : List ρ → Path → Except String ρ
  lookup : ρ → String → Symbol ε
  keepsMessage : Bool := false

/-- What a linker keeps: the message of its last failure, if nobody took it yet, and the objects it
opened, in order. -/
structure LinkerState (ρ : Type) where
  pending : Option String
  objects : List ρ
  deriving DecidableEq, Repr

def LinkerState.fresh {ρ : Type} : LinkerState ρ :=
  { pending := none, objects := [] }

structure Library (ρ : Type) where
  object : ρ
  path : Path
  deriving DecidableEq, Repr

/-- The size of a pointer, which is that of every symbol. -/
def pointerSize : Nat := 8

/-- What is reported when an object does not open and the linker says nothing. -/
def unknownOpenDetail : String := "unknown loader error"

/-- What is reported when a symbol resolves to nothing and the linker says nothing. -/
def nullSymbolDetail : String := "symbol resolved to null"

namespace Linker

variable {ρ ε : Type}

def takePending : StateM (LinkerState ρ) (Option String) := fun state =>
  (state.pending, { state with pending := none })

/-- What is pending after a success of the linker. -/
def outliving (linker : Linker ρ ε) (pending : Option String) : Option String :=
  if linker.keepsMessage then pending else none

@[simp] theorem outliving_none (linker : Linker ρ ε) : linker.outliving none = none :=
  ite_self none

/-- Asks the linker for an object: a failure leaves its message pending, a success none of its
own. -/
def request (linker : Linker ρ ε) (path : Path) : StateM (LinkerState ρ) (Option ρ) := fun state =>
  match linker.openObject state.objects path with
  | .ok object =>
    (some object,
      { pending := linker.outliving state.pending, objects := state.objects ++ [object] })
  | .error message => (none, { state with pending := some message })

/-- Asks the linker for a symbol: a missing one leaves a message pending, a null one none of its
own. -/
def requestSymbol (linker : Linker ρ ε) (object : ρ) (name : String) :
    StateM (LinkerState ρ) (Option ε) := fun state =>
  match linker.lookup object name with
  | .found entry => (some entry, { state with pending := linker.outliving state.pending })
  | .null => (none, { state with pending := linker.outliving state.pending })
  | .missing message => (none, { state with pending := some message })

def openLibrary (linker : Linker ρ ε) (path : Path) :
    StateM (LinkerState ρ) (Except LinkError (Library ρ)) := do
  if path.bytes.contains 0 then return .error (.invalidName path.display)
  let _ ← takePending
  match ← linker.request path with
  | some object => return .ok { object, path }
  | none => return .error (.openFailed path ((← takePending).getD unknownOpenDetail))

def resolve (linker : Linker ρ ε) (library : Library ρ) (name : String) (size : Nat) :
    StateM (LinkerState ρ) (Except LinkError ε) := do
  if size ≠ pointerSize then return .error (.symbolSize name size)
  if name.toList.contains '\x00' then return .error (.invalidName name)
  let _ ← takePending
  match ← linker.requestSymbol library.object name with
  | some entry => return .ok entry
  | none => return .error (.symbolMissing name ((← takePending).getD nullSymbolDetail))

end Linker

end SeccompBootstrap
