import SeccompBootstrap.Host.Linking
import SeccompBootstrap.Proofs.Bootstrap
import SeccompBootstrap.Proofs.NativeCall

/-!
Messages of a linker. Whatever is done with a linker in whatever order, a library that does not open
and a symbol that does not resolve are reported with the message of that very attempt, and none is
pending after it; what is refused before the linker is asked leaves a pending message alone, and
taking a message leaves none. All of this holds also where a message outlives a success of the
linker, so that an old one could be taken for that of a symbol which resolves to null.
-/

set_option autoImplicit false
set_option relaxedAutoImplicit false

namespace SeccompBootstrap

variable {ρ ε : Type}

namespace Linker

/-- One use of a linker: opening a library, resolving one of its symbols, asking for an object
without looking at the message, or taking the message that is pending. -/
inductive Use (ρ : Type) where
  | openLibrary (path : Path)
  | resolve (library : Library ρ) (name : String) (size : Nat)
  | request (path : Path)
  | takePending
  deriving DecidableEq, Repr

inductive Answer (ρ ε : Type) where
  | library (result : Except LinkError (Library ρ))
  | entry (result : Except LinkError ε)
  | object (found : Option ρ)
  | message (message : Option String)

def Answer.refusal? : Answer ρ ε → Option LinkError
  | .library (.error error) => some error
  | .entry (.error error) => some error
  | _ => none

section Uses

variable (linker : Linker ρ ε)

def answer : Use ρ → StateM (LinkerState ρ) (Answer ρ ε)
  | .openLibrary path => .library <$> linker.openLibrary path
  | .resolve library name size => .entry <$> linker.resolve library name size
  | .request path => .object <$> linker.request path
  | .takePending => .message <$> takePending

def perform (use : Use ρ) : Activity (LinkerState ρ) (Answer ρ ε) :=
  Activity.act (linker.answer use)

/-- Whether it depends on the path alone if an object opens and why it does not, and not on the
objects that are open already. Which object it is may still depend on them. -/
def Steady : Prop :=
  ∀ objects path, (linker.openObject objects path).map (fun _ => ()) =
    (linker.openObject [] path).map (fun _ => ())

end Uses

/-- The uses that are refused before the linker is asked, with the reason. The size of a symbol is
looked at before its name. -/
inductive Refused : Use ρ → LinkError → Prop
  | path {path : Path} (nul : 0 ∈ path.bytes) :
      Refused (.openLibrary path) (.invalidName path.display)
  | size {library : Library ρ} {name : String} {size : Nat} (other : size ≠ pointerSize) :
      Refused (.resolve library name size) (.symbolSize name size)
  | name {library : Library ρ} {name : String} (nul : '\x00' ∈ name.toList) :
      Refused (.resolve library name pointerSize) (.invalidName name)

inductive Asks : Use ρ → Prop
  | path {path : Path} (plain : 0 ∉ path.bytes) : Asks (.openLibrary path)
  | name {library : Library ρ} {name : String} (plain : '\x00' ∉ name.toList) :
      Asks (.resolve library name pointerSize)

abbrev Dealing (ρ ε : Type) := Episode (LinkerState ρ) (Use ρ) (Answer ρ ε)

/-- What holds of a use of a linker, whatever was pending before it. -/
structure OwnMessage (linker : Linker ρ ε) (e : Dealing ρ ε) : Prop where
  opened : ∀ path, e.input = .openLibrary path →
    e.result = .library (linker.opened e.before.world.objects path) ∧
      (linker.opened e.before.world.objects path).map Library.path =
        (linker.opened [] path).map Library.path
  resolved : ∀ library name size, e.input = .resolve library name size →
    e.result = .entry (linker.resolved library.object name size)
  null : ∀ library name, e.input = .resolve library name pointerSize →
    '\x00' ∉ name.toList → linker.lookup library.object name = .null →
    e.result = .entry (.error (.symbolMissing name "symbol resolved to null"))
  cleared : Asks e.input → e.after.world.pending = none
  undisturbed : ∀ reason, Refused e.input reason →
    e.result.refusal? = some reason ∧ e.after.world = e.before.world
  left : ∀ path message, e.input = .request path →
    linker.openObject e.before.world.objects path = .error message →
    e.after.world.pending = some message
  taken : e.input = .takePending →
    e.result = .message e.before.world.pending ∧ e.after.world.pending = none

variable (linker : Linker ρ ε) {path : Path} {library : Library ρ} {name : String} {size : Nat}
  {state : LinkerState ρ}

theorem openLibrary_of_nul (nul : 0 ∈ path.bytes) :
    linker.openLibrary path state = (.error (.invalidName path.display), state) := by
  have invalid : path.bytes.contains 0 = true := List.contains_iff_mem.mpr nul
  rw [openLibrary, if_pos invalid]
  rfl

theorem pending_openLibrary (plain : 0 ∉ path.bytes) :
    (linker.openLibrary path state).2.pending = none := by
  have valid : ¬ path.bytes.contains 0 = true := mt List.contains_iff_mem.mp plain
  rw [openLibrary, if_neg valid]
  rcases opening : linker.openObject state.objects path with message | object <;>
    simp [takePending, request, opening]

theorem resolve_of_size (other : size ≠ pointerSize) :
    linker.resolve library name size state = (.error (.symbolSize name size), state) := by
  rw [resolve, if_pos other]
  rfl

theorem resolve_of_nul (nul : '\x00' ∈ name.toList) :
    linker.resolve library name pointerSize state = (.error (.invalidName name), state) := by
  have sized : ¬ pointerSize ≠ pointerSize := fun other => other rfl
  have invalid : name.toList.contains '\x00' = true := List.contains_iff_mem.mpr nul
  rw [resolve, if_neg sized, if_pos invalid]
  rfl

theorem pending_resolve (plain : '\x00' ∉ name.toList) :
    (linker.resolve library name pointerSize state).2.pending = none := by
  have sized : ¬ pointerSize ≠ pointerSize := fun other => other rfl
  have valid : ¬ name.toList.contains '\x00' = true := mt List.contains_iff_mem.mp plain
  rw [resolve, if_neg sized, if_neg valid]
  rcases looking : linker.lookup library.object name with entry | _ | message <;>
    simp [takePending, requestSymbol, looking]

theorem resolved_of_null {object : ρ} (plain : '\x00' ∉ name.toList)
    (null : linker.lookup object name = .null) :
    linker.resolved object name pointerSize =
      .error (.symbolMissing name "symbol resolved to null") := by
  have sized : ¬ pointerSize ≠ pointerSize := fun other => other rfl
  have valid : ¬ name.toList.contains '\x00' = true := mt List.contains_iff_mem.mp plain
  rw [resolved, if_neg sized, if_neg valid, null]
  rfl

theorem opened_of_steady (steady : linker.Steady) (objects : List ρ) (path : Path) :
    (linker.opened objects path).map Library.path =
      (linker.opened [] path).map Library.path := by
  unfold opened
  by_cases invalid : path.bytes.contains 0 = true
  · rw [if_pos invalid, if_pos invalid]
  · rw [if_neg invalid, if_neg invalid]
    have same := steady objects path
    rcases here : linker.openObject objects path with message | object <;>
      rcases fresh : linker.openObject [] path with message' | object' <;>
      rw [here, fresh] at same
    · rw [Except.error.inj same]
    · cases same
    · cases same
    · rfl

variable {use : Use ρ} {reason : LinkError}

theorem answer_of_refused (refused : Refused use reason) (state : LinkerState ρ) :
    (linker.answer use state).1.refusal? = some reason ∧ (linker.answer use state).2 = state := by
  cases refused with
  | path nul =>
      rw [answer, Activity.map_apply, linker.openLibrary_of_nul nul]
      exact ⟨rfl, rfl⟩
  | size other =>
      rw [answer, Activity.map_apply, linker.resolve_of_size other]
      exact ⟨rfl, rfl⟩
  | name nul =>
      rw [answer, Activity.map_apply, linker.resolve_of_nul nul]
      exact ⟨rfl, rfl⟩

theorem pending_answer_of_asks (asks : Asks use) (state : LinkerState ρ) :
    (linker.answer use state).2.pending = none := by
  cases asks with
  | path plain => exact linker.pending_openLibrary plain
  | name plain => exact linker.pending_resolve plain

theorem pending_request {message : String}
    (failed : linker.openObject state.objects path = .error message) :
    (linker.request path state).2.pending = some message := by
  rw [request, failed]

theorem ownMessage_perform (steady : linker.Steady) (use : Use ρ) (s : Session (LinkerState ρ)) :
    OwnMessage linker (Activity.episode linker.perform use s) where
  opened path input := by
    obtain rfl : use = .openLibrary path := input
    constructor
    · exact congrArg Answer.library (linker.openLibrary_result path s.world)
    · exact linker.opened_of_steady steady s.world.objects path
  resolved library name size input := by
    obtain rfl : use = .resolve library name size := input
    exact congrArg Answer.entry (linker.resolve_result library name size s.world)
  null library name input plain null := by
    obtain rfl : use = .resolve library name pointerSize := input
    rw [← linker.resolved_of_null plain null]
    exact congrArg Answer.entry (linker.resolve_result library name pointerSize s.world)
  cleared asks := linker.pending_answer_of_asks asks s.world
  undisturbed reason refused := linker.answer_of_refused refused s.world
  left path message input failed := by
    obtain rfl : use = .request path := input
    exact linker.pending_request failed
  taken input := by
    obtain rfl : use = .takePending := input
    exact ⟨rfl, rfl⟩

end Linker

namespace LinkingHost

theorem openFile_steady (host : LinkingHost) (objects : List LinkedObject) (path : Path) :
    (host.openFile objects path).map (fun _ => ()) =
      (host.openFile [] path).map (fun _ => ()) := by
  unfold openFile
  rcases host.files.find path with errno | ⟨place, kind⟩
  · rfl
  · cases kind <;> rfl

theorem openObject_steady (host : LinkingHost) (objects : List LinkedObject) (path : Path) :
    (host.openObject objects path).map (fun _ => ()) =
      (host.openObject [] path).map (fun _ => ()) := by
  unfold openObject
  by_cases empty : path.bytes.isEmpty = true
  · rw [if_pos empty, if_pos empty]
  · rw [if_neg empty, if_neg empty]
    by_cases separated : path.bytes.contains Path.separator = true
    · rw [if_pos separated, if_pos separated]
      exact host.openFile_steady objects path
    · rw [if_neg separated, if_neg separated]
      rcases host.locate path.bytes with errno | found
      · rfl
      · exact host.openFile_steady objects found

/-- What opens on a host, and why it does not, is said by the files, whatever is open already. -/
theorem steady_linker (host : LinkingHost) : host.linker.Steady := by
  intro objects path
  have same := host.openObject_steady objects path
  have told : ∀ objects, host.linker.openObject objects path =
      (host.openObject objects path).mapError OpenFailure.message := fun _ => rfl
  rw [told, told]
  rcases here : host.openObject objects path with failure | object <;>
    rcases fresh : host.openObject [] path with failure' | object' <;>
    rw [here, fresh] at same
  · rw [Except.error.inj same]
  · cases same
  · cases same
  · rfl

end LinkingHost

namespace Linker

variable (linker : Linker ρ ε)

/-- Whatever a linker is used for, and with whatever message pending at the start, every use answers
with its own message only, and of two takings in a row the second one finds none. -/
theorem uses_report_own_messages (steady : linker.Steady) (uses : List (Use ρ))
    (start : Session (LinkerState ρ)) :
    let dealings := Activity.episodes linker.perform uses start
    dealings.map Episode.input = uses ∧
      (∀ e ∈ dealings, OwnMessage linker e) ∧
      ∀ earlier first second later, dealings = earlier ++ first :: second :: later →
        second.before = first.after ∧
          (first.input = .takePending → second.input = .takePending →
            second.result = .message none) := by
  intro dealings
  have own : ∀ e ∈ dealings, OwnMessage linker e :=
    Activity.forall_mem_episodes linker.perform (linker.ownMessage_perform steady) uses start
  refine ⟨Activity.map_input_episodes linker.perform uses start, own, ?_⟩
  intro earlier first second later split
  have firstOwn := own first (by simp [split])
  have secondOwn := own second (by simp [split])
  have next : second.before = first.after :=
    Activity.before_eq_after_of_episodes linker.perform split
  refine ⟨next, ?_⟩
  intro takesFirst takesSecond
  rw [(secondOwn.taken takesSecond).1, next, (firstOwn.taken takesFirst).2]

end Linker

def LinkingHost.withNullEntry : LinkingHost where
  files :=
    { files := [([Text.Utf8.bytes "lib.so"], .sharedObject [⟨"NullEntry", none⟩])]
      workingDirectory := [] }
  directories := []
  program := []

theorem uses_report_own_messages_of_null_entry :
    let linker := { LinkingHost.withNullEntry.linker with keepsMessage := true }
    let missing : Path := .ofString "./no.so"
    let library : Library LinkedObject :=
      { object := ⟨[Text.Utf8.bytes "lib.so"], .ofString "./lib.so", [⟨"NullEntry", none⟩]⟩
        path := .ofString "./lib.so" }
    let uses : List (Linker.Use LinkedObject) :=
      [.request missing, .resolve library "NullEntry" pointerSize, .request missing,
        .resolve library "Null\x00Entry" 4, .openLibrary ⟨[0]⟩, .takePending, .takePending]
    let start : Session (LinkerState LinkedObject) := .start .fresh
    let dealings := Activity.episodes linker.perform uses start
    linker.Steady ∧
      dealings.map (·.result.refusal?) =
        [none, some (.symbolMissing "NullEntry" "symbol resolved to null"), none,
          some (.symbolSize "Null\x00Entry" 4), some (.invalidName "\x00"), none, none] ∧
      dealings.map (·.after.world.pending.isSome) =
        [true, false, true, true, true, false, false] ∧
      dealings.map Episode.input = uses ∧
      (∀ e ∈ dealings, Linker.OwnMessage linker e) := by
  intro linker missing library uses start dealings
  have steady : linker.Steady := LinkingHost.withNullEntry.steady_linker
  obtain ⟨inputs, own, -⟩ := linker.uses_report_own_messages steady uses start
  refine ⟨steady, ?_, ?_, inputs, own⟩
  · decide +kernel
  · decide +kernel

end SeccompBootstrap
