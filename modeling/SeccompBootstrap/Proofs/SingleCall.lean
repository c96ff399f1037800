import SeccompBootstrap.Proofs.Bootstrap
import SeccompBootstrap.Proofs.NativeCall

/-!
The native calls of a process. Whatever bootstraps run in it, on whatever hosts and through whatever
libraries, a process makes at most one native call, its latch is claimed exactly if the call was
made, and exactly one run then reports success, with the parameters of the call. All of it rests on
the courses that a single run can take, each with its outcome, its events and its calls.
-/

set_option autoImplicit false
set_option relaxedAutoImplicit false

namespace SeccompBootstrap

variable {ρ ε : Type}

def Outcome.enforced? : Outcome → Option Parameters
  | .enforced p => some p
  | _ => none

/-- A run of a bootstrap through a library: what the host links, the configuration, where the entry
is, and the occasion. -/
structure NativeRun (ρ ε : Type) where
  linker : Linker ρ ε
  config : Config
  library : Path
  symbol : String
  occasion : Occasion

namespace NativeRun

def bootstrap (run : NativeRun ρ ε) : Bootstrap (NativeWorld ρ ε) LinkError :=
  { config := run.config, loader := .ofLibrary run.linker run.library run.symbol }

def perform (run : NativeRun ρ ε) : Activity (NativeWorld ρ ε) Outcome :=
  run.bootstrap.runOn run.occasion

/-- Whether a run in a process gets as far as the latch, with an entry and parameters. -/
structure Reaches (run : NativeRun ρ ε) (process : NativeWorld ρ ε) (entry : ε) (p : Parameters) :
    Prop where
  active : ActivationMode.resolve run.occasion.env run.config = .active
  loads : run.linker.entryAt process.linker.objects run.library run.symbol = .ok entry
  parses : Parameters.ofArguments run.occasion.argv = .ok p

/-- Whether a run in a process ends before the latch: it is skipped, fails to load or has invalid
parameters. -/
inductive Stops (run : NativeRun ρ ε) (process : NativeWorld ρ ε) : Prop
  | skipped (inactive : ActivationMode.resolve run.occasion.env run.config ≠ .active)
  | unloaded (error : LinkError)
      (refused : run.linker.entryAt process.linker.objects run.library run.symbol = .error error)
  | unread (error : ParameterError)
      (unread : Parameters.ofArguments run.occasion.argv = .error error)

theorem Reaches.unique {run : NativeRun ρ ε} {process : NativeWorld ρ ε} {entry other : ε}
    {p q : Parameters} (first : run.Reaches process entry p)
    (second : run.Reaches process other q) : entry = other ∧ p = q :=
  ⟨Except.ok.inj (first.loads.symm.trans second.loads),
    Except.ok.inj (first.parses.symm.trans second.parses)⟩

theorem Reaches.not_stops {run : NativeRun ρ ε} {process : NativeWorld ρ ε} {entry : ε}
    {p : Parameters} (reaches : run.Reaches process entry p) : ¬ run.Stops process := by
  intro stops
  cases stops with
  | skipped inactive => exact inactive reaches.active
  | unloaded error refused => simp [reaches.loads] at refused
  | unread error unread => simp [reaches.parses] at unread

end NativeRun

abbrev NativeEpisode (ρ ε : Type) := Episode (NativeWorld ρ ε) (NativeRun ρ ε) Outcome

namespace NativeEpisode

def refusal : String :=
  "enforcement call failed: enforcement was already attempted in this process"

def callFor (entry : ε) (p : Parameters) : NativeCall ε :=
  .of entry p.uid p.gid p.capabilities.enableNetwork

/-- Whether a run makes no call and reports none. -/
structure Idle (e : NativeEpisode ρ ε) : Prop where
  unenforced : e.result.enforced? = none
  latch : e.after.world.latch = e.before.world.latch
  calls : e.after.world.calls = e.before.world.calls

/-- Whether a run claims the latch and makes the call for parameters, which it reports. -/
structure Called (e : NativeEpisode ρ ε) (entry : ε) (p : Parameters) : Prop where
  unclaimed : e.before.world.latch.claimed = false
  enforced : e.result = .enforced p
  latch : e.after.world.latch = ⟨true⟩
  calls : e.after.world.calls = e.before.world.calls ++ [callFor entry p]

/-- The ways in which a run ends, with what it does to the latch and the calls. -/
inductive Ending (e : NativeEpisode ρ ε) : Prop
  | stopped (stops : e.input.Stops e.before.world) (idle : Idle e)
  | refused (entry : ε) (p : Parameters) (reaches : e.input.Reaches e.before.world entry p)
      (claimed : e.before.world.latch.claimed = true) (outcome : e.result = .initFailure refusal)
      (idle : Idle e)
  | called (entry : ε) (p : Parameters) (reaches : e.input.Reaches e.before.world entry p)
      (called : Called e entry p)

theorem Ending.idle_or_called {e : NativeEpisode ρ ε} (ending : Ending e) :
    Idle e ∨ ∃ entry p, Called e entry p := by
  cases ending with
  | stopped _ idle => exact .inl idle
  | refused _ _ _ _ _ idle => exact .inl idle
  | called entry p _ called => exact .inr ⟨entry, p, called⟩

theorem detail_alreadyAttempted :
    (Trouble.failure (InitError.enforcement .alreadyAttempted)).detail InitError.message =
      refusal := by
  decide +kernel

end NativeEpisode

namespace NativeRun

def callingEvent (run : NativeRun ρ ε) (p : Parameters) : Event :=
  .callingEntry run.symbol p.uid.toNat p.gid.toNat p.capabilities.enableNetwork

def stepEvents (run : NativeRun ρ ε) (p : Parameters) : List Event :=
  [.loadingLibrary run.library.display, .entryResolved run.symbol, .parametersParsed p,
    run.callingEvent p]

/-- The courses of a run in a process from the resolved mode on: what the run comes to, the events
of its steps and the native calls that it makes. -/
inductive Course (run : NativeRun ρ ε) (process : NativeWorld ρ ε) :
    Outcome → List Event → List (NativeCall ε) → Prop
  | skipped {outcome : Outcome}
      (inactive : ActivationMode.resolve run.occasion.env run.config ≠ .active)
      (unenforced : outcome.enforced? = none) : Course run process outcome [] []
  | unloaded {error : LinkError} (detail : String)
      (active : ActivationMode.resolve run.occasion.env run.config = .active)
      (refused : run.linker.entryAt process.linker.objects run.library run.symbol = .error error) :
      Course run process (.loadFailure detail) [.loadingLibrary run.library.display] []
  | unread {entry : ε} {error : ParameterError} (detail : String)
      (active : ActivationMode.resolve run.occasion.env run.config = .active)
      (loads : run.linker.entryAt process.linker.objects run.library run.symbol = .ok entry)
      (unread : Parameters.ofArguments run.occasion.argv = .error error) :
      Course run process (.initFailure detail)
        [.loadingLibrary run.library.display, .entryResolved run.symbol] []
  | refused {entry : ε} {p : Parameters} (reaches : run.Reaches process entry p)
      (claimed : process.latch.claimed = true) :
      Course run process (.initFailure NativeEpisode.refusal)
        [.loadingLibrary run.library.display, .entryResolved run.symbol, .parametersParsed p] []
  | called {entry : ε} {p : Parameters} (reaches : run.Reaches process entry p)
      (unclaimed : process.latch.claimed = false) :
      Course run process (.enforced p) (run.stepEvents p) [NativeEpisode.callFor entry p]

/-- Whether a run that has resolved its mode in a session takes a course to an outcome and a session
after it: its events and calls are added, and the latch is claimed if there is a call. -/
structure Takes (run : NativeRun ρ ε) (s : Session (NativeWorld ρ ε)) (outcome : Outcome)
    (after : Session (NativeWorld ρ ε)) (events : List Event) (made : List (NativeCall ε)) :
    Prop where
  course : run.Course s.world outcome events made
  trace : after.trace = (run.bootstrap.resolved run.occasion.env s).trace ++ events
  calls : after.world.calls = s.world.calls ++ made
  latch : after.world.latch = if made.isEmpty then s.world.latch else ⟨true⟩

variable (run : NativeRun ρ ε) (s : Session (NativeWorld ρ ε))

private theorem takes_of_inactive
    (inactive : ActivationMode.resolve run.occasion.env run.config ≠ .active) :
    ∃ outcome after events made,
      run.bootstrap.settle run.occasion.env run.occasion.argv s = (outcome, after) ∧
        run.Takes s outcome after events made := by
  have takes {outcome : Outcome} (unenforced : outcome.enforced? = none) :
      run.Takes s outcome (run.bootstrap.resolved run.occasion.env s) [] [] :=
    { course := .skipped inactive unenforced
      trace := (List.append_nil _).symm
      calls := (List.append_nil _).symm
      latch := rfl }
  cases mode : ActivationMode.resolve run.occasion.env run.config with
  | disabled =>
      refine ⟨.disabled run.config.disableVar, _, _, _, ?_, takes rfl⟩
      simp [Bootstrap.settle, Bootstrap.resolved, bootstrap, mode]
  | debugSkip =>
      refine ⟨.debugSkip skipVar, _, _, _, ?_, takes rfl⟩
      simp [Bootstrap.settle, Bootstrap.resolved, bootstrap, mode]
  | active => exact absurd mode inactive

private theorem takes_of_active
    (active : ActivationMode.resolve run.occasion.env run.config = .active) :
    ∃ outcome after events made,
      run.bootstrap.settle run.occasion.env run.occasion.argv s = (outcome, after) ∧
        run.Takes s outcome after events made := by
  let b := run.bootstrap
  let start : Session (NativeWorld ρ ε) := { b.resolved run.occasion.env s with quiet := true }
  have attempts := b.settle_of_active run.occasion.env run.occasion.argv active s
  rcases loads : run.linker.entryAt s.world.linker.objects run.library run.symbol with error | entry
  · obtain ⟨state, loaded⟩ := Loader.run_load_of_error run.linker run.library run.symbol
      (s := start) loads
    have attempted := b.attempt_of_load_trouble run.occasion.argv loaded
    refine ⟨_, _, _, _, attempts.trans attempted, .unloaded _ active loads, rfl, ?_, rfl⟩
    exact (List.append_nil _).symm
  · obtain ⟨state, loaded⟩ := Loader.run_load_of_entry run.linker run.library run.symbol
      (s := start) loads
    let binding : Binding (NativeWorld ρ ε) := .ofEntry run.symbol entry
    let linked := NativeWorld.linked state
      [.loadingLibrary run.library.display, .entryResolved run.symbol] start
    rcases parses : Parameters.ofArguments run.occasion.argv with error | p
    · have stopped :=
        Bootstrap.run_enforceOnce_of_unread binding parses { linked with quiet := true }
      have attempted := b.attempt_of_call_trouble run.occasion.argv loaded stopped
      refine ⟨_, _, _, _, attempts.trans attempted, .unread _ active loads parses, rfl, ?_, rfl⟩
      exact (List.append_nil _).symm
    · have reaches : run.Reaches s.world entry p := ⟨active, loads, parses⟩
      obtain ⟨uidFits, gidFits⟩ := Parameters.fitsInt32_of_ofArguments parses
      cases latch : s.world.latch.claimed with
      | true =>
          have refused := Binding.run_ofEntry_of_claimed run.symbol entry
            p.capabilities.enableNetwork uidFits gidFits
            (s := { linked with trace := linked.trace ++ [.parametersParsed p] }) latch
          have stopped := Bootstrap.run_enforceOnce_of_call_trouble binding parses refused
          have attempted := b.attempt_of_call_trouble run.occasion.argv loaded stopped
          have course := Course.refused reaches latch
          rw [← NativeEpisode.detail_alreadyAttempted] at course
          refine ⟨_, _, _, _, attempts.trans attempted, course, ?_, ?_, rfl⟩
          · exact List.append_assoc _ _ _
          · exact (List.append_nil _).symm
      | false =>
          have called := Binding.run_ofEntry_of_unclaimed run.symbol entry
            p.capabilities.enableNetwork uidFits gidFits
            (s := { linked with trace := linked.trace ++ [.parametersParsed p] }) latch
          have enforced := Bootstrap.run_enforceOnce_of_call binding parses called
          have attempted := b.attempt_of_call run.occasion.argv loaded enforced
          refine ⟨_, _, _, _, attempts.trans attempted, .called reaches latch, ?_, rfl, rfl⟩
          exact (List.append_assoc _ _ _).trans (List.append_assoc _ _ _)

/-- Every run takes one of the courses. -/
theorem takes_course :
    ∃ outcome after events made,
      run.bootstrap.settle run.occasion.env run.occasion.argv s = (outcome, after) ∧
        run.Takes s outcome after events made := by
  by_cases active : ActivationMode.resolve run.occasion.env run.config = .active
  · exact run.takes_of_active s active
  · exact run.takes_of_inactive s active

end NativeRun

namespace NativeEpisode

theorem ending (run : NativeRun ρ ε) (s : Session (NativeWorld ρ ε)) :
    Ending (Activity.episode NativeRun.perform run s) := by
  obtain ⟨outcome, after, events, made, settled, takes⟩ := run.takes_course s
  obtain ⟨result, world⟩ : (Activity.episode NativeRun.perform run s).result = outcome ∧
      (Activity.episode NativeRun.perform run s).after.world = after.world :=
    Bootstrap.runOn_of_settle settled
  obtain ⟨course, -, calls, latch⟩ := takes
  rw [← world] at calls latch
  have idle (none : made = []) (unenforced : outcome.enforced? = Option.none) :
      Idle (Activity.episode NativeRun.perform run s) := by
    subst none
    exact ⟨by rw [result, unenforced], latch, calls.trans (List.append_nil _)⟩
  cases course with
  | skipped inactive unenforced => exact .stopped (.skipped inactive) (idle rfl unenforced)
  | unloaded _ _ refused => exact .stopped (.unloaded _ refused) (idle rfl rfl)
  | unread _ _ _ unread => exact .stopped (.unread _ unread) (idle rfl rfl)
  | refused reaches claimed => exact .refused _ _ reaches claimed result (idle rfl rfl)
  | called reaches unclaimed => exact .called _ _ reaches ⟨unclaimed, result, latch, calls⟩

def enforcements (runs : List (NativeEpisode ρ ε)) : List Parameters :=
  runs.filterMap fun e => e.result.enforced?

private theorem enforcements_cons (run : NativeRun ρ ε) (rest : List (NativeRun ρ ε))
    (s : Session (NativeWorld ρ ε)) :
    enforcements (Activity.episodes NativeRun.perform (run :: rest) s) =
      (run.perform s).1.enforced?.toList ++
        enforcements (Activity.episodes NativeRun.perform rest (run.perform s).2) := by
  cases reported : (run.perform s).1.enforced? with
  | none => simp [enforcements, Activity.episodes, Activity.episode, reported]
  | some p => simp [enforcements, Activity.episodes, Activity.episode, reported]

/-- What a sequence of runs does to a process whose latch is unclaimed: nothing, or one call. -/
inductive Balance (start after : NativeWorld ρ ε) (enforced : List Parameters) : Prop
  | none (latch : after.latch.claimed = false) (calls : after.calls = start.calls)
      (unenforced : enforced = [])
  | one (entry : ε) (p : Parameters) (latch : after.latch.claimed = true)
      (calls : after.calls = start.calls ++ [callFor entry p]) (enforced : enforced = [p])

private theorem balance_of_claimed (runs : List (NativeRun ρ ε)) {s : Session (NativeWorld ρ ε)}
    (claimed : s.world.latch.claimed = true) :
    (Activity.sessionAfter NativeRun.perform runs s).world.latch.claimed = true ∧
      (Activity.sessionAfter NativeRun.perform runs s).world.calls = s.world.calls ∧
      enforcements (Activity.episodes NativeRun.perform runs s) = [] := by
  induction runs generalizing s with
  | nil => exact ⟨claimed, rfl, rfl⟩
  | cons run rest ih =>
      rcases (ending run s).idle_or_called with idle | ⟨entry, p, called⟩
      · have unenforced : (run.perform s).1.enforced? = Option.none := idle.unenforced
        have calls : (run.perform s).2.world.calls = s.world.calls := idle.calls
        have still : (run.perform s).2.world.latch.claimed = true :=
          (congrArg Latch.claimed idle.latch).trans claimed
        obtain ⟨last, none, nothing⟩ := ih still
        refine ⟨last, none.trans calls, ?_⟩
        rw [enforcements_cons, unenforced, nothing]
        rfl
      · exact absurd (claimed.symm.trans called.unclaimed) Bool.noConfusion

/-- From an unclaimed latch on, at most one run makes a call, and only that run reports success. -/
theorem balance (runs : List (NativeRun ρ ε)) {s : Session (NativeWorld ρ ε)}
    (unclaimed : s.world.latch.claimed = false) :
    Balance s.world (Activity.sessionAfter NativeRun.perform runs s).world
      (enforcements (Activity.episodes NativeRun.perform runs s)) := by
  induction runs generalizing s with
  | nil => exact .none unclaimed rfl rfl
  | cons run rest ih =>
      rw [enforcements_cons, Activity.sessionAfter_cons]
      rcases (ending run s).idle_or_called with idle | ⟨entry, p, called⟩
      · have unenforced : (run.perform s).1.enforced? = Option.none := idle.unenforced
        have kept : (run.perform s).2.world.calls = s.world.calls := idle.calls
        have still : (run.perform s).2.world.latch.claimed = false :=
          (congrArg Latch.claimed idle.latch).trans unclaimed
        rw [unenforced]
        cases ih still with
        | none latch calls enforced => exact .none latch (calls.trans kept) enforced
        | one entry p latch calls enforced =>
            exact .one entry p latch (calls.trans (by rw [kept])) enforced
      · -- the latch is claimed from here on, so the other runs add nothing
        have enforced : (run.perform s).1 = .enforced p := called.enforced
        have made : (run.perform s).2.world.calls = s.world.calls ++ [callFor entry p] :=
          called.calls
        have claimed : (run.perform s).2.world.latch.claimed = true :=
          congrArg Latch.claimed called.latch
        obtain ⟨last, none, nothing⟩ := balance_of_claimed rest claimed
        refine .one entry p last (none.trans made) ?_
        rw [enforced, nothing]
        rfl

/-- The accounts of a process after some runs that made some native calls: one call at most, which
the latch and the outcomes both tell, made by the first run that got to the latch. -/
structure Accounts (start : NativeWorld ρ ε) (runs : List (NativeEpisode ρ ε))
    (after : NativeWorld ρ ε) (made : List (NativeCall ε)) : Prop where
  log : after.calls = start.calls ++ made
  at_most_one : made.length ≤ 1
  claimed_iff_called : after.latch.claimed = true ↔ made.length = 1
  called_iff_enforced : made.length = 1 ↔ (enforcements runs).length = 1
  carried : made.map (fun call => (call.uid, call.gid, call.enableNetwork)) =
    (enforcements runs).map fun p =>
      ((p.uid.toNat : Int), (p.gid.toNat : Int), p.capabilities.enableNetwork)
  undisturbed : ∀ e ∈ runs, e.input.Stops e.before.world →
    e.after.world.latch = e.before.world.latch ∧ e.after.world.calls = e.before.world.calls
  admitted : ∀ e ∈ runs, e.before.world.calls = start.calls →
    ∀ entry p, e.input.Reaches e.before.world entry p →
    e.result = .enforced p ∧ e.after.world.calls = e.before.world.calls ++ [callFor entry p]
  refused : ∀ e ∈ runs, e.before.world.calls ≠ start.calls →
    ∀ entry p, e.input.Reaches e.before.world entry p →
    e.result = .initFailure refusal ∧ e.after.world.calls = e.before.world.calls

def Tracks (start process : NativeWorld ρ ε) : Prop :=
  process.latch.claimed = false ↔ process.calls = start.calls

private theorem tracks_perform {start : NativeWorld ρ ε} (run : NativeRun ρ ε)
    (s : Session (NativeWorld ρ ε)) (tracks : Tracks start s.world) :
    Tracks start (run.perform s).2.world := by
  unfold Tracks at tracks ⊢
  rcases (ending run s).idle_or_called with idle | ⟨entry, p, called⟩
  · have latch : (run.perform s).2.world.latch = s.world.latch := idle.latch
    have calls : (run.perform s).2.world.calls = s.world.calls := idle.calls
    rw [latch, calls]
    exact tracks
  · have latch : (run.perform s).2.world.latch = ⟨true⟩ := called.latch
    have calls : (run.perform s).2.world.calls = s.world.calls ++ [callFor entry p] :=
      called.calls
    rw [latch, calls, tracks.mp called.unclaimed]
    simp

private theorem Ending.accounts {start : NativeWorld ρ ε} {e : NativeEpisode ρ ε}
    (ending : Ending e) (tracks : Tracks start e.before.world) :
    (e.input.Stops e.before.world →
      e.after.world.latch = e.before.world.latch ∧
        e.after.world.calls = e.before.world.calls) ∧
    (e.before.world.calls = start.calls → ∀ entry p, e.input.Reaches e.before.world entry p →
      e.result = .enforced p ∧
        e.after.world.calls = e.before.world.calls ++ [callFor entry p]) ∧
    (e.before.world.calls ≠ start.calls → ∀ entry p, e.input.Reaches e.before.world entry p →
      e.result = .initFailure refusal ∧ e.after.world.calls = e.before.world.calls) := by
  cases ending with
  | stopped stops idle =>
      refine ⟨fun _ => ⟨idle.latch, idle.calls⟩, ?_, ?_⟩
      · intro _ entry p reaches
        exact absurd stops reaches.not_stops
      · intro _ entry p reaches
        exact absurd stops reaches.not_stops
  | refused _ _ _ claimed outcome idle =>
      refine ⟨fun _ => ⟨idle.latch, idle.calls⟩, ?_, fun _ _ _ _ => ⟨outcome, idle.calls⟩⟩
      intro same
      have unclaimed := tracks.mpr same
      exact absurd (claimed.symm.trans unclaimed) Bool.noConfusion
  | called entry p reaches called =>
      refine ⟨fun stops => absurd stops reaches.not_stops, ?_, ?_⟩
      · intro _ entry' p' reaches'
        obtain ⟨rfl, rfl⟩ := reaches.unique reaches'
        exact ⟨called.enforced, called.calls⟩
      · intro other
        exact absurd (tracks.mp called.unclaimed) other

theorem accounts (runs : List (NativeRun ρ ε)) {s : Session (NativeWorld ρ ε)}
    (unclaimed : s.world.latch.claimed = false) :
    ∃ made, Accounts s.world (Activity.episodes NativeRun.perform runs s)
      (Activity.sessionAfter NativeRun.perform runs s).world made := by
  have tracks : Tracks s.world s.world := by simp [Tracks, unclaimed]
  -- carried along: the latch is claimed once a call was made since the start
  have along := (Activity.invariant_along NativeRun.perform (fun t => Tracks s.world t.world)
    tracks_perform runs tracks).1
  have ends := Activity.forall_mem_episodes NativeRun.perform ending runs s
  have each := fun e member => (ends e member).accounts (along e member).1
  have undisturbed := fun e member => (each e member).1
  have admitted := fun e member => (each e member).2.1
  have refused := fun e member => (each e member).2.2
  cases balance runs unclaimed with
  | none latch calls unenforced =>
      refine ⟨[], ?_⟩
      exact
        { log := by rw [calls, List.append_nil]
          at_most_one := Nat.zero_le 1
          claimed_iff_called := by simp [latch]
          called_iff_enforced := by simp [unenforced]
          carried := by rw [unenforced]; rfl
          undisturbed
          admitted
          refused }
  | one entry p latch calls enforced =>
      refine ⟨[callFor entry p], ?_⟩
      exact
        { log := calls
          at_most_one := Nat.le_refl 1
          claimed_iff_called := by simp [latch]
          called_iff_enforced := by simp [enforced]
          carried := by rw [enforced]; rfl
          undisturbed
          admitted
          refused }

end NativeEpisode

/-- After any number of runs a process whose latch was unclaimed has made one native call at most,
and the latch, the calls and the outcomes agree on whether it did. -/
theorem at_most_one_native_call (runs : List (NativeRun ρ ε)) (start : Session (NativeWorld ρ ε))
    (unclaimed : start.world.latch.claimed = false) (k : Nat) :
    let performed := (Activity.episodes NativeRun.perform runs start).take k
    performed.map Episode.input = runs.take k ∧
      ∃ made, NativeEpisode.Accounts start.world performed
        (Activity.sessionAfter NativeRun.perform (runs.take k) start).world made := by
  intro performed
  have first : performed = Activity.episodes NativeRun.perform (runs.take k) start :=
    (Activity.episodes_take NativeRun.perform runs k start).symm
  rw [first]
  exact ⟨Activity.map_input_episodes NativeRun.perform (runs.take k) start,
    NativeEpisode.accounts (runs.take k) unclaimed⟩

def NativeRun.unhindered : NativeRun Unit Unit where
  linker := { openObject := fun _ _ => .ok (), lookup := fun _ _ => .found () }
  config := .default
  library := Config.default.libraryPath
  symbol := Config.default.entrySymbol
  occasion :=
    { env := .empty
      argv := ["bootstrap", "/bin/true", "1000", "100", Capabilities.toJson ⟨true⟩]
      stream := .fresh .unbounded }

theorem at_most_one_native_call_of_two :
    let start : Session (NativeWorld Unit Unit) := .start .fresh
    let runs : List (NativeRun Unit Unit) := [.unhindered, .unhindered]
    let performed := (Activity.episodes NativeRun.perform runs start).take 2
    start.world.latch.claimed = false ∧
      performed.map (·.result) =
        [.enforced ⟨1000, 100, ⟨true⟩⟩, .initFailure NativeEpisode.refusal] ∧
      performed.map Episode.input = runs ∧
      ∃ made, NativeEpisode.Accounts start.world performed
        (Activity.sessionAfter NativeRun.perform runs start).world made := by
  intro start runs performed
  refine ⟨rfl, ?_, at_most_one_native_call runs start rfl 2⟩
  decide +kernel

end SeccompBootstrap
