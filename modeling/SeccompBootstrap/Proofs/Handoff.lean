import SeccompBootstrap.Proofs.Bootstrap
import SeccompBootstrap.Proofs.Launch
import SeccompBootstrap.Proofs.Parameters

/-!
From a launch to its bootstrap. A child that gets the arguments and the environment of a launch, and
whose enforcement succeeds, is never degraded: it is skipped, or it enforces what the launch asks
for. If it serves the runtime of the launch, the settings and the host decide which of the two.
-/

set_option autoImplicit false
set_option relaxedAutoImplicit false

namespace SeccompBootstrap

/-- Whether loading and calling always succeed. -/
structure Loader.Succeeds {σ ε : Type} (loader : Loader σ ε) : Prop where
  succeeds : ∀ s : Session σ, ∃ (binding : Binding σ) (loaded : Session σ),
    loader.load.run s = (.ok binding, loaded) ∧
      ∀ uid gid enableNetwork (t : Session σ), ∃ called,
        (binding.enforce uid gid enableNetwork).run t = (.ok (), called)

namespace Bootstrap

variable {σ ε : Type}

theorem attempt_of_succeeds {bootstrap : Bootstrap σ ε} (succeeds : bootstrap.loader.Succeeds)
    {argv : List String} {p : Parameters} (read : Parameters.ofArguments argv = .ok p)
    (s : Session σ) : (bootstrap.attempt argv s).1 = .enforced p := by
  obtain ⟨binding, loaded, load, calls⟩ := succeeds.succeeds { s with quiet := true }
  let ready : Session σ :=
    { loaded with quiet := true, trace := loaded.trace ++ [.parametersParsed p] }
  obtain ⟨called, call⟩ := calls p.uid p.gid p.capabilities.enableNetwork ready
  have enforced : (enforceOnce binding argv).run { loaded with quiet := true } = (.ok p, called) :=
    run_enforceOnce_of_call binding read call
  rw [attempt_of_call bootstrap argv load enforced]

theorem settle_of_succeeds {bootstrap : Bootstrap σ ε} (succeeds : bootstrap.loader.Succeeds)
    (env : Environment) {argv : List String} {p : Parameters}
    (read : Parameters.ofArguments argv = .ok p) (s : Session σ) :
    (bootstrap.settle env argv s).1 =
      if env.isTrue bootstrap.config.disableVar = true then .disabled bootstrap.config.disableVar
      else if env.isTrue skipVar = true then .debugSkip skipVar
      else .enforced p := by
  cases flag : env.isTrue bootstrap.config.disableVar with
  | true =>
      rw [settle_of_disabled bootstrap env argv flag]
      rfl
  | false =>
      cases skip : env.isTrue skipVar with
      | true =>
          rw [settle_of_skipped bootstrap env argv flag skip]
          rfl
      | false =>
          have active := ActivationMode.resolve_eq_active_iff.mpr ⟨flag, skip⟩
          rw [settle_of_active bootstrap env argv active, attempt_of_succeeds succeeds read]
          rfl

end Bootstrap

theorem Script.succeeds_loader : Script.succeeding.loader.Succeeds where
  succeeds s := by
    refine ⟨Script.succeeding.binding, _, rfl, ?_⟩
    intro uid gid enableNetwork t
    exact ⟨_, rfl⟩

namespace Launch

variable {launch : Launch}

def parameters (launch : Launch) : Parameters :=
  { uid := launch.uid, gid := launch.gid, capabilities := launch.capabilities }

theorem childArgv_eq (direct : launch.bootstrapArgs = []) {args : List Argument}
    (given : launch.args = .ok args) :
    launch.childArgv args =
      (Argument.ofPath launch.bootstrap).display :: (Argument.ofPath launch.workload).display ::
        launch.positionalArgs := by
  obtain ⟨-, -, rfl⟩ := args_eq_ok_iff.mp given
  have shown : Argument.display ∘ Argument.ofString = id := funext Argument.display_ofString
  simp [childArgv, direct, shown]

theorem ofArguments_childArgv (direct : launch.bootstrapArgs = []) {args : List Argument}
    (given : launch.args = .ok args) :
    Parameters.ofArguments (launch.childArgv args) = .ok launch.parameters := by
  obtain ⟨uidFits, gidFits, -⟩ := args_eq_ok_iff.mp given
  rw [childArgv_eq direct given]
  exact Parameters.ofArguments_written launch.parameters uidFits gidFits _ _ launch.separatedArgs

theorem settle_childEnv {σ ε : Type} {child : Bootstrap σ ε} (succeeds : child.loader.Succeeds)
    (host : Environment) {argv : List String}
    (read : Parameters.ofArguments argv = .ok launch.parameters)
    (same : child.config.disableVar = launch.disableVar)
    (flagAlone : launch.LeavesAlone launch.disableVar) (skipAlone : launch.LeavesAlone skipVar)
    (s : Session σ) :
    (child.settle ⟨launch.childEnv host⟩ argv s).1 =
      if launch.config.disableSeccomp = true ∨ host.get? launch.disableVar = some "true" then
        .disabled launch.disableVar
      else if host.get? debugSkipVar = some "true" then .debugSkip skipVar
      else .enforced launch.parameters := by
  have flag : (Environment.mk (launch.childEnv host)).isTrue launch.disableVar = true ↔
      launch.config.disableSeccomp = true ∨ host.get? launch.disableVar = some "true" := by
    rw [Environment.isTrue, get?_disableVar_childEnv flagAlone]
    simp [isDisabled, Environment.isTrue]
  have skip : (Environment.mk (launch.childEnv host)).isTrue skipVar = true ↔
      host.get? debugSkipVar = some "true" := by
    rw [Environment.isTrue, get?_skipVar_childEnv skipAlone]
    simp [isSkipped, Environment.isTrue]
  rw [Bootstrap.settle_of_succeeds succeeds _ read]
  simp only [same, flag, skip]

/-- What a launch comes to is told by the two flags in the child's environment alone. -/
theorem handoff_eq (direct : launch.bootstrapArgs = []) {args : List Argument}
    (given : launch.args = .ok args) (host : Environment) (config : Config) :
    launch.handoff host config = .ok
      (if (Environment.mk (launch.childEnv host)).isTrue config.disableVar = true then
          .disabled config.disableVar
        else if (Environment.mk (launch.childEnv host)).isTrue skipVar = true then
          .debugSkip skipVar
        else .enforced launch.parameters) := by
  have read := ofArguments_childArgv direct given
  let child : Bootstrap Record LinkError := { config, loader := Script.succeeding.loader }
  have succeeds : child.loader.Succeeds := Script.succeeds_loader
  have settled := Bootstrap.settle_of_succeeds succeeds ⟨launch.childEnv host⟩ read (.start .empty)
  rw [handoff, given]
  simp only [bind, Except.bind, Bootstrap.run_eq]
  exact congrArg Except.ok settled

end Launch

/-- A child that gets the arguments and the environment of a launch is never degraded. If it was
configured for the runtime of the launch, and no variable was added in the place of the two flags,
then it is disabled exactly where the settings or the host ask for that, otherwise skips enforcement
exactly where the host asks for that, and otherwise enforces. -/
theorem handoff_outcome (launch : Launch) (direct : launch.bootstrapArgs = [])
    (args : List Argument) (given : launch.args = .ok args) (host : Environment) {σ ε : Type}
    (child : Bootstrap σ ε) (succeeds : child.loader.Succeeds) (stream : Stream) (s : Session σ) :
    let enforced : Outcome :=
      .enforced ⟨launch.uid, launch.gid, ⟨launch.config.enableNetwork⟩⟩
    let outcome := (child.run ⟨launch.childEnv host⟩ (launch.childArgv args) stream s).1.1
    outcome.isDegraded = false ∧
      (outcome = .disabled child.config.disableVar ∨ outcome = .debugSkip skipVar ∨
        outcome = enforced) ∧
      ∀ label : String, child.config.runtime = normalizeLabel label →
        normalizeLabel label = normalizeLabel launch.config.runtime →
        launch.LeavesAlone launch.disableVar → launch.LeavesAlone skipVar →
        outcome =
          if launch.config.disableSeccomp = true ∨ host.get? launch.disableVar = some "true" then
            .disabled launch.disableVar
          else if host.get? debugSkipVar = some "true" then .debugSkip skipVar
          else enforced := by
  intro enforced outcome
  have read := Launch.ofArguments_childArgv direct given
  have reported : outcome = (child.settle ⟨launch.childEnv host⟩ (launch.childArgv args) s).1 :=
    congrArg (fun result => result.1.1) (child.run_eq _ _ stream s)
  have settled := reported.trans
    (Bootstrap.settle_of_succeeds succeeds ⟨launch.childEnv host⟩ read s)
  have ends : outcome = .disabled child.config.disableVar ∨ outcome = .debugSkip skipVar ∨
      outcome = enforced := by
    rw [settled]
    split
    · exact .inl rfl
    · split
      · exact .inr (.inl rfl)
      · exact .inr (.inr rfl)
  refine ⟨?_, ends, ?_⟩
  · rcases ends with end_ | end_ | end_ <;> rw [end_] <;> rfl
  · intro label built alike flagAlone skipAlone
    -- both sides normalize their label, and the child does so twice
    have same : child.config.disableVar = launch.disableVar := by
      rw [Config.disableVar, built, disableVar_normalizeLabel]
      exact disableVar_congr alike
    have decided := Launch.settle_childEnv succeeds host read same flagAlone skipAlone s
    exact reported.trans decided

theorem handoff_outcome_of_skipping_host :
    let launch : Launch := .ofWorkload (.ofString "gatehouse") (.ofString "/bin/true") 1000 100
    let args : List Argument :=
      ["/bin/true", "1000", "100", Capabilities.none.toJson].map .ofString
    let host : Environment := ⟨[(skipVar, "true"), ("PATH", "/bin")]⟩
    let child : Bootstrap Record LinkError :=
      { config := .default, loader := Script.succeeding.loader }
    launch.bootstrapArgs = [] ∧ launch.args = .ok args ∧ child.loader.Succeeds ∧
      (child.run ⟨launch.childEnv host⟩ (launch.childArgv args) (.fresh .unbounded)
        (.start .empty)).1.1 = .enforced ⟨1000, 100, ⟨false⟩⟩ := by
  intro launch args host child
  have spelled : args = launch.bootstrapArgs.map Argument.ofString ++
      Argument.ofPath launch.workload :: launch.positionalArgs.map Argument.ofString := by
    decide +kernel
  have given : launch.args = .ok args :=
    Launch.args_eq_ok_iff.mpr ⟨by decide, by decide, spelled⟩
  have result := handoff_outcome launch rfl args given host child Script.succeeds_loader
    (.fresh .unbounded) (.start .empty)
  refine ⟨rfl, given, Script.succeeds_loader, ?_⟩
  refine (result.2.2 defaultRuntime (by decide) rfl ?_ ?_).trans ?_
  · exact fun _ added => absurd added List.not_mem_nil
  · exact fun _ added => absurd added List.not_mem_nil
  · decide +kernel

end SeccompBootstrap
