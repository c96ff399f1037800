import SeccompBootstrap.Enforcement
import SeccompBootstrap.Proofs.Parameters
import SeccompBootstrap.Proofs.Session

/-!
What loading through a linker and calling an entry come to. The result of opening a library or
resolving a name depends on the objects that are open and never on a message that is pending, so a
load has its result as a function of those objects, and does nothing to a process but change its
linker. In a call, ids that do not fit a native integer are refused, then a latch that is claimed
already; only after that the latch is claimed and the entry is called. What is refused leaves the
session as it was.
-/

set_option autoImplicit false
set_option relaxedAutoImplicit false

namespace SeccompBootstrap

variable {ρ ε : Type}

namespace Linker

variable (linker : Linker ρ ε)

def opened (objects : List ρ) (path : Path) : Except LinkError (Library ρ) :=
  if path.bytes.contains 0 then .error (.invalidName path.display)
  else match linker.openObject objects path with
    | .ok object => .ok { object, path }
    | .error message => .error (.openFailed path message)

def resolved (object : ρ) (name : String) (size : Nat) : Except LinkError ε :=
  if size ≠ pointerSize then .error (.symbolSize name size)
  else if name.toList.contains '\x00' then .error (.invalidName name)
  else match linker.lookup object name with
    | .found entry => .ok entry
    | .null => .error (.symbolMissing name nullSymbolDetail)
    | .missing message => .error (.symbolMissing name message)

def entryAt (objects : List ρ) (path : Path) (symbol : String) : Except LinkError ε := do
  let library ← linker.opened objects path
  linker.resolved library.object symbol pointerSize

/-- What opening a library reports is its own: no message that was pending goes into it. -/
theorem openLibrary_result (path : Path) (state : LinkerState ρ) :
    (linker.openLibrary path state).1 = linker.opened state.objects path := by
  unfold openLibrary opened
  by_cases invalid : path.bytes.contains 0 = true
  · rw [if_pos invalid, if_pos invalid]
    rfl
  · rw [if_neg invalid, if_neg invalid]
    -- whatever was pending is taken before the request, so the message is its own
    rcases opening : linker.openObject state.objects path with message | object <;>
      simp [takePending, request, opening]

theorem resolve_result (library : Library ρ) (name : String) (size : Nat)
    (state : LinkerState ρ) :
    (linker.resolve library name size state).1 = linker.resolved library.object name size := by
  unfold resolve resolved
  by_cases unsized : size ≠ pointerSize
  · rw [if_pos unsized, if_pos unsized]
    rfl
  · rw [if_neg unsized, if_neg unsized]
    by_cases invalid : name.toList.contains '\x00' = true
    · rw [if_pos invalid, if_pos invalid]
      rfl
    · rw [if_neg invalid, if_neg invalid]
      rcases looking : linker.lookup library.object name with entry | _ | message <;>
        simp [takePending, requestSymbol, looking]

end Linker

namespace NativeWorld

/-- A session whose process has another state of its linker, with more events in its trace. -/
def linked (state : LinkerState ρ) (events : List Event) (s : Session (NativeWorld ρ ε)) :
    Session (NativeWorld ρ ε) :=
  { s with
    world := { s.world with linker := state }
    trace := s.trace ++ events }

theorem run_linking {α : Type} (steps : StateM (LinkerState ρ) (Except LinkError α))
    (s : Session (NativeWorld ρ ε)) :
    (linking steps).run s =
      (Action.ofExcept (steps s.world.linker).1).run
        { s with world := { s.world with linker := (steps s.world.linker).2 } } := rfl

end NativeWorld

namespace Loader

variable (linker : Linker ρ ε) (path : Path) (symbol : String) {s : Session (NativeWorld ρ ε)}

theorem run_load_of_entry {entry : ε}
    (found : linker.entryAt s.world.linker.objects path symbol = .ok entry) :
    ∃ state, (ofLibrary linker path symbol).load.run s =
      (.ok (.ofEntry symbol entry),
        NativeWorld.linked state [.loadingLibrary path.display, .entryResolved symbol] s) := by
  unfold Linker.entryAt at found
  rcases opening : linker.opened s.world.linker.objects path with error | library
  · rw [opening] at found
    cases found
  · rw [opening] at found
    have resolving : linker.resolved library.object symbol pointerSize = .ok entry := found
    refine ⟨(linker.resolve library symbol pointerSize
      (linker.openLibrary path s.world.linker).2).2, ?_⟩
    simp [ofLibrary, Action.run_bind, NativeWorld.run_linking, Linker.openLibrary_result, opening,
      Linker.resolve_result, resolving, NativeWorld.linked, Except.map]

theorem run_load_of_error {error : LinkError}
    (refused : linker.entryAt s.world.linker.objects path symbol = .error error) :
    ∃ state, (ofLibrary linker path symbol).load.run s =
      (.error (.failure error), NativeWorld.linked state [.loadingLibrary path.display] s) := by
  unfold Linker.entryAt at refused
  rcases opening : linker.opened s.world.linker.objects path with reason | library
  · rw [opening] at refused
    cases refused
    refine ⟨(linker.openLibrary path s.world.linker).2, ?_⟩
    simp [ofLibrary, Action.run_bind, NativeWorld.run_linking, Linker.openLibrary_result, opening,
      NativeWorld.linked]
  · rw [opening] at refused
    have resolving : linker.resolved library.object symbol pointerSize = .error error := refused
    refine ⟨(linker.resolve library symbol pointerSize
      (linker.openLibrary path s.world.linker).2).2, ?_⟩
    simp [ofLibrary, Action.run_bind, NativeWorld.run_linking, Linker.openLibrary_result, opening,
      Linker.resolve_result, resolving, NativeWorld.linked]

end Loader

theorem nativeId_of_fits {name : String} {id : UInt32} (fits : fitsInt32 id = true) :
    nativeId name id = .ok id.toNat := by
  rw [nativeId, if_pos fits]

def NativeCall.of (entry : ε) (uid gid : UInt32) (enableNetwork : Bool) : NativeCall ε :=
  { entry, uid := uid.toNat, gid := gid.toNat, enableNetwork }

namespace NativeWorld

variable {process : NativeWorld ρ ε}

def called (call : NativeCall ε) (process : NativeWorld ρ ε) : NativeWorld ρ ε :=
  { process with latch := ⟨true⟩, calls := process.calls ++ [call] }

theorem claim_of_claimed (claimed : process.latch.claimed = true) :
    process.claim = (false, process) := by
  obtain ⟨linker, ⟨flag⟩, calls⟩ := process
  obtain rfl : flag = true := claimed
  rfl

theorem claim_of_unclaimed (unclaimed : process.latch.claimed = false) :
    process.claim = (true, { process with latch := ⟨true⟩ }) := by
  simp [claim, Latch.tryClaim, unclaimed]

end NativeWorld

namespace Binding

variable (symbol : String) (entry : ε) {uid gid : UInt32} (enableNetwork : Bool)
  {s : Session (NativeWorld ρ ε)}

theorem run_ofEntry_of_unclaimed (uidFits : fitsInt32 uid = true) (gidFits : fitsInt32 gid = true)
    (unclaimed : s.world.latch.claimed = false) :
    ((ofEntry symbol entry : Binding (NativeWorld ρ ε)).enforce uid gid enableNetwork).run s =
      (.ok (), { s with
        world := s.world.called (.of entry uid gid enableNetwork)
        trace := s.trace ++ [.callingEntry symbol uid.toNat gid.toNat enableNetwork] }) := by
  simp [ofEntry, Action.run_bind, nativeId_of_fits uidFits, nativeId_of_fits gidFits,
    NativeWorld.claim_of_unclaimed unclaimed, NativeWorld.call, NativeWorld.called, NativeCall.of]

theorem run_ofEntry_of_claimed (uidFits : fitsInt32 uid = true) (gidFits : fitsInt32 gid = true)
    (claimed : s.world.latch.claimed = true) :
    ((ofEntry symbol entry : Binding (NativeWorld ρ ε)).enforce uid gid enableNetwork).run s =
      (.error (.failure .alreadyAttempted), s) := by
  simp [ofEntry, Action.run_bind, nativeId_of_fits uidFits, nativeId_of_fits gidFits,
    NativeWorld.claim_of_claimed claimed]

end Binding

end SeccompBootstrap
