import SeccompBootstrap.Proofs.Bootstrap
import SeccompBootstrap.Proofs.CommandLine
import SeccompBootstrap.Proofs.Report

/-!
From the settings of a launch that turn enforcement off to the program that is launched. The child's
environment is nothing but a few flags, and the one that turns enforcement off is named after the
runtime of the launch. The run command gets no label from a launch, so it serves the default runtime
and is turned off exactly if that is the runtime of the launch.
-/

set_option autoImplicit false
set_option relaxedAutoImplicit false

namespace SeccompBootstrap

open Text.Utf8 (asciiByte bytes encode)

def Command.environ (command : Command) : RawEnvironment :=
  .ofAssignments (command.env.assignments.map fun assignment =>
    (bytes assignment.1, bytes assignment.2))

def passableText (s : String) : String :=
  if '\x00' ∈ s.toList then "<string-with-nul>" else s

theorem Argument.passable_ofString (s : String) :
    (Argument.ofString s).passable = .ofString (passableText s) := by
  have zero : asciiByte '\x00' = 0 := by decide
  have present : (Argument.ofString s).bytes.contains 0 = true ↔ '\x00' ∈ s.toList := by
    rw [List.contains_iff_mem, ← zero]
    exact Text.Utf8.asciiByte_mem_encode (by decide)
  unfold Argument.passable passableText
  by_cases found : '\x00' ∈ s.toList
  · rw [if_pos (present.mpr found), if_pos found]
    rfl
  · rw [if_neg (mt present.mp found), if_neg found]

theorem passableText_of_not_mem {s : String} (absent : '\x00' ∉ s.toList) : passableText s = s :=
  if_neg absent

theorem head?_passableText_ne {s : String} (plain : s.toList.head? ≠ some '-') :
    (passableText s).toList.head? ≠ some '-' := by
  unfold passableText
  split
  · decide
  · exact plain

namespace Launch

variable {launch : Launch}

def passed (launch : Launch) (workload : String) : Launch :=
  { launch with
    workload := .ofString (passableText workload)
    workloadArgs := launch.workloadArgs.map passableText }

private theorem passableText_toString (n : Nat) : passableText (toString n) = toString n :=
  passableText_of_not_mem (Text.not_mem_toString (by decide) n)

private theorem passableText_toJson (c : Capabilities) : passableText c.toJson = c.toJson := by
  obtain ⟨_ | _⟩ := c
  · decide
  · decide

theorem map_passableText_positionalArgs (launch : Launch) (workload : String) :
    launch.positionalArgs.map passableText = (launch.passed workload).positionalArgs := by
  have separated : launch.separatedArgs.map passableText =
      (launch.passed workload).separatedArgs := by
    have separator : passableText "--" = "--" := by decide
    unfold separatedArgs passed
    cases launch.workloadArgs with
    | nil => rfl
    | cons first rest => simp [separator]
  simp only [positionalArgs, List.map_append, List.map_cons, List.map_nil, passableText_toString,
    passableText_toJson, separated]
  rfl

def commandOf (launch : Launch) (supervisor : Environment) (workload : String) : Command :=
  { program := (Argument.ofPath launch.bootstrap).passable
    args := .ofString "run" :: .ofString (passableText workload) ::
      (launch.passed workload).positionalArgs.map Argument.ofString
    env := ⟨launch.childEnv supervisor⟩ }

theorem command_eq {workload : String} (commanded : launch.bootstrapArgs = ["run"])
    (uidFits : launch.uid.toNat ≤ greatestId) (gidFits : launch.gid.toNat ≤ greatestId)
    (named : launch.workload = .ofString workload) (supervisor : Environment) :
    launch.command supervisor = .ok (launch.commandOf supervisor workload) := by
  have given := args_eq_ok_iff.mpr ⟨decide_eq_true uidFits, decide_eq_true gidFits, rfl⟩
  have run : (Argument.ofString "run").passable = .ofString "run" := by decide
  have same : Argument.passable ∘ Argument.ofString = Argument.ofString ∘ passableText :=
    funext Argument.passable_ofString
  have path : Argument.ofPath (.ofString workload) = .ofString workload := rfl
  rw [command, given, commanded, named, path]
  simp only [bind, Except.bind, pure, Except.pure, commandOf, List.map_cons, List.map_nil,
    List.cons_append, List.nil_append, run, Argument.passable_ofString, List.map_map, same,
    ← map_passableText_positionalArgs]

theorem eq_of_mem_childEnv (bare : launch.extraEnv = []) {supervisor : Environment}
    {a : String × String} (member : a ∈ launch.childEnv supervisor) :
    a = (launch.disableVar, "true") ∨ a = (skipVar, "true") ∨ a.1 = allowedSyscallsVar := by
  rw [childEnv, bare, List.append_nil, List.mem_append, List.mem_append] at member
  rcases member with (flag | skip) | list
  · exact .inl (by split at flag <;> simp_all)
  · exact .inr (.inl (by split at skip <;> simp_all))
  · exact .inr (.inr (by split at list <;> simp_all))

def childEnviron (launch : Launch) (supervisor : Environment) : RawEnvironment :=
  .ofAssignments ((launch.childEnv supervisor).map fun a => (bytes a.1, bytes a.2))

/-- The letters with which the names in a child's environment begin. -/
def initials : List Char := ['D', 'S', 'A']

theorem initial_of_mem_childEnv (bare : launch.extraEnv = []) {supervisor : Environment}
    {a : String × String} (member : a ∈ launch.childEnv supervisor) :
    ∃ c ∈ initials, ∃ rest, a.1.toList = c :: rest := by
  rcases eq_of_mem_childEnv bare member with rfl | rfl | list
  · let rest := "ISABLE_" ++ normalizeLabel launch.config.runtime ++ "_SECCOMP"
    refine ⟨'D', by decide, rest.toList, ?_⟩
    simp [rest, disableVar, SeccompBootstrap.disableVar]
  · exact ⟨'S', by decide, "KIP_SECCOMP".toList, by decide⟩
  · exact ⟨'A', by decide, "LLOWED_SYSCALLS".toList, by rw [list]; decide⟩

theorem initials_plain : ∀ c ∈ initials, c.toNat ≤ 0x7F ∧ c ≠ '\x00' ∧ asciiByte c ≠ 0x47 := by
  intro c member
  simp only [initials, List.mem_cons, List.not_mem_nil, or_false] at member
  rcases member with rfl | rfl | rfl <;> decide

theorem exists_of_mem_childEnviron {supervisor : Environment} {e : List UInt8}
    (member : e ∈ (launch.childEnviron supervisor).entries) :
    ∃ a ∈ launch.childEnv supervisor, e = encode (a.1.toList ++ '=' :: a.2.toList) := by
  obtain ⟨b, given, rfl⟩ := RawEnvironment.exists_of_mem_ofAssignments member
  obtain ⟨a, assigned, rfl⟩ := List.mem_map.mp given
  exact ⟨a, assigned, Environment.entry_bytes a.1 a.2⟩

theorem get?_childEnviron_option (bare : launch.extraEnv = []) (supervisor : Environment)
    (option : Cli.RunOption) : (launch.childEnviron supervisor).get? option.envName = none := by
  refine RawEnvironment.get?_eq_none_of_head? fun e member => ?_
  obtain ⟨a, assigned, rfl⟩ := exists_of_mem_childEnviron member
  obtain ⟨c, initial, rest, spelled⟩ := initial_of_mem_childEnv bare assigned
  obtain ⟨ascii, -, other⟩ := initials_plain c initial
  have first : (RawEnvironment.entry (bytes option.envName) []).head? = some 0x47 := by
    cases option <;> decide
  rw [first, spelled, List.cons_append, Text.Utf8.encode_cons,
    Text.Utf8.utf8EncodeChar_of_ascii ascii]
  exact fun same => other (Option.some.inj same)

theorem text_of_readEntry?_childEnv (bare : launch.extraEnv = []) {supervisor : Environment}
    {a : String × String} (member : a ∈ launch.childEnv supervisor) {name value : String}
    (read : Environment.readEntry? (encode (a.1.toList ++ '=' :: a.2.toList)) =
      some (name, value)) :
    name.toList.head? = a.1.toList.head? ∧ name.toList ++ '=' :: value.toList =
      (a.1.toList ++ '=' :: a.2.toList).takeWhile (· != '\x00') := by
  obtain ⟨c, initial, rest, spelled⟩ := initial_of_mem_childEnv bare member
  obtain ⟨-, nonzero, -⟩ := initials_plain c initial
  have passes : (c != '\x00') = true := bne_iff_ne.mpr nonzero
  rw [spelled, List.cons_append] at read ⊢
  rw [List.takeWhile_cons, if_pos passes]
  exact RawEnvironment.text_of_readEntry? nonzero read

private theorem eq_of_takeWhile {runtime normal ending : List Char} {letter stop : Char}
    (inEnding : letter ∈ ending) (noLetter : letter ∉ normal) (noStop : stop ∉ ending)
    (read : runtime ++ ending = (normal ++ ending).takeWhile (· != stop)) : normal = runtime := by
  have whole : runtime ++ ending ++ (normal ++ ending).dropWhile (· != stop) =
      normal ++ ending := by
    rw [read, List.takeWhile_append_dropWhile]
  rcases List.append_eq_append_iff.mp whole with ⟨more, long, -⟩ | ⟨back, short, kept⟩
  · have inside : letter ∈ normal := by
      rw [long]
      exact List.mem_append_left more (List.mem_append_right runtime inEnding)
    exact absurd inside noLetter
  · rcases cut : (normal ++ ending).dropWhile (· != stop) with _ | ⟨z, rest⟩
    · rw [cut, List.append_nil] at kept
      rw [← kept] at short
      exact (List.append_cancel_right short).symm
    · have stopped : z = stop := by
        have head := List.head?_dropWhile_not (· != stop) (normal ++ ending)
        simpa [cut] using head
      have inside : stop ∈ ending := by
        rw [kept, cut, stopped]
        exact List.mem_append_right back List.mem_cons_self
      exact absurd inside noStop

/-- Whatever a process reads as the flag of the default runtime with the value `true` was the flag
of that runtime. A label with a zero character could cut its entry short, but not right behind
`true`, because normal labels are without small letters. -/
theorem normalizeLabel_eq_of_read {label : String}
    (read : (SeccompBootstrap.disableVar defaultRuntime).toList ++ '=' :: "true".toList =
      ((SeccompBootstrap.disableVar label).toList ++ '=' :: "true".toList).takeWhile
        (· != '\x00')) :
    normalizeLabel label = defaultRuntime := by
  have flag (other : String) : (SeccompBootstrap.disableVar other).toList ++ '=' :: "true".toList =
      "DISABLE_".toList ++ ((normalizeLabel other).toList ++ "_SECCOMP=true".toList) := by
    simp [SeccompBootstrap.disableVar]
  have noZero : '\x00' ∉ "DISABLE_".toList := by decide
  have passes : ∀ c ∈ "DISABLE_".toList, (c != '\x00') = true :=
    fun c member => bne_iff_ne.mpr fun same => noZero (same ▸ member)
  have normal : normalizeLabel defaultRuntime = defaultRuntime := by decide
  rw [flag, flag, List.takeWhile_append_of_pos passes, normal] at read
  exact String.toList_injective (eq_of_takeWhile (by decide : 't' ∈ _)
    (not_mem_normalizeLabel (by decide) label) (by decide) (List.append_cancel_left read))

theorem exists_of_mem_capture {supervisor : Environment} {assignment : String × String}
    (member : assignment ∈ (launch.childEnviron supervisor).capture.assignments) :
    ∃ a ∈ launch.childEnv supervisor,
      Environment.readEntry? (encode (a.1.toList ++ '=' :: a.2.toList)) = some assignment := by
  obtain ⟨e, kept, read⟩ := List.mem_filterMap.mp member
  obtain ⟨a, assigned, rfl⟩ := exists_of_mem_childEnviron kept
  exact ⟨a, assigned, read⟩

theorem eq_flag_of_read (bare : launch.extraEnv = []) {supervisor : Environment}
    {a : String × String} (member : a ∈ launch.childEnv supervisor) {value : String}
    (read : Environment.readEntry? (encode (a.1.toList ++ '=' :: a.2.toList)) =
      some (SeccompBootstrap.disableVar defaultRuntime, value)) :
    a = (launch.disableVar, "true") := by
  obtain ⟨begins, -⟩ := text_of_readEntry?_childEnv bare member read
  have flag : (SeccompBootstrap.disableVar defaultRuntime).toList.head? = some 'D' := by
    decide
  rcases eq_of_mem_childEnv bare member with rfl | rfl | list
  · rfl
  · rw [flag] at begins
    exact absurd begins (by decide)
  · rw [flag, list] at begins
    exact absurd begins (by decide)

variable (bare : launch.extraEnv = []) (optedOut : launch.config.disableSeccomp = true)

include bare in
theorem normalizeLabel_eq_of_isTrue {supervisor : Environment}
    (flag : (launch.childEnviron supervisor).capture.isTrue
      (SeccompBootstrap.disableVar defaultRuntime) = true) :
    normalizeLabel launch.config.runtime = defaultRuntime := by
  have found := Environment.mem_of_get?_eq_some (of_decide_eq_true flag)
  obtain ⟨a, assigned, read⟩ := exists_of_mem_capture found
  obtain rfl := eq_flag_of_read bare assigned read
  exact normalizeLabel_eq_of_read (text_of_readEntry?_childEnv bare assigned read).2

include bare optedOut in
theorem flag_mem_childEnviron (supervisor : Environment) :
    RawEnvironment.entry (bytes launch.disableVar) (bytes "true") ∈
      (launch.childEnviron supervisor).entries := by
  have alone : launch.LeavesAlone launch.disableVar := by
    intro assignment added
    rw [bare] at added
    cases added
  have disabled : launch.isDisabled supervisor = true := by rw [isDisabled, optedOut, Bool.true_or]
  have assigned : (launch.disableVar, "true") ∈ launch.childEnv supervisor := by
    refine Environment.mem_of_get?_eq_some ?_
    rw [launch.get?_disableVar_childEnv alone, if_pos disabled]
  have onlyValue : ∀ b ∈ (launch.childEnv supervisor).map (fun a => (bytes a.1, bytes a.2)),
      b.1 = bytes launch.disableVar → b.2 = bytes "true" := by
    intro b member named
    obtain ⟨a, given, rfl⟩ := List.mem_map.mp member
    have name : a.1 = launch.disableVar := Text.Utf8.bytes_injective named
    have value : a.2 = "true" := by
      rcases eq_of_mem_childEnv bare given with rfl | rfl | list
      · rfl
      · rfl
      · exact absurd (name.symm.trans list) (disableVar_ne_allowedSyscallsVar _)
    exact congrArg bytes value
  exact RawEnvironment.entry_mem_ofAssignments (List.mem_map.mpr ⟨_, assigned, rfl⟩) onlyValue

include bare optedOut in
theorem isTrue_of_normalizeLabel_eq (same : normalizeLabel launch.config.runtime = defaultRuntime)
    (supervisor : Environment) :
    (launch.childEnviron supervisor).capture.isTrue (SeccompBootstrap.disableVar defaultRuntime) =
      true := by
  let flag := SeccompBootstrap.disableVar defaultRuntime
  have normal : normalizeLabel defaultRuntime = defaultRuntime := by decide
  have own : launch.disableVar = flag := disableVar_congr (same.trans normal.symm)
  have readBack : Environment.readEntry? (RawEnvironment.entry (bytes flag) (bytes "true")) =
      some (flag, "true") := by decide +kernel
  have entered := launch.flag_mem_childEnviron bare optedOut supervisor
  rw [own] at entered
  refine decide_eq_true (Environment.get?_of_mem
    (List.mem_filterMap.mpr ⟨_, entered, readBack⟩) ?_)
  intro assignment member named
  obtain ⟨a, given, read⟩ := exists_of_mem_capture member
  obtain ⟨name, value⟩ := assignment
  obtain rfl : name = flag := named
  obtain rfl := eq_flag_of_read bare given read
  rw [← Environment.entry_bytes, own, readBack] at read
  exact (congrArg Prod.snd (Option.some.inj read)).symm

end Launch

theorem Outcome.line_disabled (var : String) :
    (Outcome.disabled var).line = "seccomp: disabled via " ++ var := rfl

theorem Outcome.report_unbounded (outcome : Outcome) :
    (outcome.report (.fresh .unbounded)).1 = [.finished outcome.label outcome.isProtected] ∧
      (outcome.report (.fresh .unbounded)).2.accepted = bytes (outcome.line ++ "\n") := by
  have lossless : StreamLimits.unbounded.Lossless := ⟨rfl, rfl, by decide⟩
  have inside : (Stream.fresh .unbounded).limits.Holds (Stream.fresh .unbounded).offset :=
    StreamLimits.holds_zero _
  have room : (Stream.fresh .unbounded).limits.Holds
      ((Stream.fresh .unbounded).offset + outcome.lineBytes.length) :=
    fun k bounded => by cases bounded
  rw [outcome.report_of_room inside lossless.chunk room]
  exact ⟨rfl, lossless.admitted _⟩

theorem Bootstrap.run_of_disabled {σ ε : Type} (bootstrap : Bootstrap σ ε) {env : Environment}
    (flag : env.isTrue bootstrap.config.disableVar = true) (argv : List String) (stream : Stream)
    (s : Session σ) :
    bootstrap.run env argv stream s =
      ((.disabled bootstrap.config.disableVar,
          ((Outcome.disabled bootstrap.config.disableVar).report stream).2),
        { s with
          trace := s.trace ++ .modeResolved .disabled bootstrap.config.runtime ::
            ((Outcome.disabled bootstrap.config.disableVar).report stream).1 }) := by
  rw [run_eq, settle_of_disabled _ _ _ flag, resolved, ActivationMode.resolve_of_disabled flag]
  simp only [List.append_assoc, List.singleton_append]

namespace Cli

variable {launch : Launch} (bare : launch.extraEnv = []) (supervisor : Environment)
  (workload : String)

/-- The request that the command line of a launch makes up in its child's environment. -/
def launchedRequest (launch : Launch) (supervisor : Environment) (workload : String) : RunRequest :=
  .ofLaunch (launch.childEnviron supervisor) (launch.passed workload) (passableText workload)

include bare

theorem readArguments_commandOf (plain : workload.toList.head? ≠ some '-') :
    readArguments (launch.childEnviron supervisor) (launch.commandOf supervisor workload).args =
      .ok (.run (launchedRequest launch supervisor workload)) := by
  have readable (option : RunOption) : option.ReadableIn (launch.childEnviron supervisor) := by
    intro value found
    rw [launch.get?_childEnviron_option bare] at found
    cases found
  have bareRequest := Given.bare_ofLaunch (launch.passed workload) (passableText workload)
  have filled := Given.fillIn_of_readable bareRequest readable
  rw [Launch.commandOf, readArguments_run, readRun_launch _ _ (head?_passableText_ne plain),
    Given.finish, filled]
  rfl

theorem config_launchedRequest :
    (launchedRequest launch supervisor workload).config = .default := by
  have noText (option : RunOption) :
      RunOption.text? (launch.childEnviron supervisor) option = none := by
    rw [RunOption.text?, launch.get?_childEnviron_option bare]
    rfl
  have noPath (option : RunOption) :
      RunOption.path? (launch.childEnviron supervisor) option = none := by
    rw [RunOption.path?, launch.get?_childEnviron_option bare]
    rfl
  have built : Config.build [.runtime defaultRuntime, .libraryPath (.ofString defaultLibraryPath),
      .entrySymbol defaultEntrySymbol] = .default := by decide
  rw [launchedRequest, RunRequest.ofLaunch, RunRequest.config]
  simp only [noText, noPath, Option.getD_none, built]

theorem disableVar_launchedRequest :
    (launchedRequest launch supervisor workload).config.disableVar = disableVar defaultRuntime := by
  rw [config_launchedRequest bare]
  rfl

variable (host : LinkingHost)

omit bare in
theorem bootstrapRun_of_disabled {env : RawEnvironment} {request : RunRequest}
    (flag : env.capture.isTrue request.config.disableVar = true) :
    bootstrapRun host env request =
      ((.disabled request.config.disableVar,
          ((Outcome.disabled request.config.disableVar).report (.fresh .unbounded)).2),
        { Session.start .fresh with
          trace := .modeResolved .disabled request.config.runtime ::
            ((Outcome.disabled request.config.disableVar).report (.fresh .unbounded)).1 }) :=
  Bootstrap.run_of_disabled (Bootstrap.mk request.config
    (.ofConfig (searching host env).linker request.config)) flag request.argv _ _

omit bare in
theorem bootstrapRun_ne_disabled {env : RawEnvironment} {request : RunRequest}
    (flag : env.capture.isTrue request.config.disableVar = false) (var : String) :
    (bootstrapRun host env request).1.1 ≠ .disabled var := by
  let bootstrap : Bootstrap HostWorld LinkError :=
    { config := request.config, loader := .ofConfig (searching host env).linker request.config }
  rw [bootstrapRun, Bootstrap.run_eq]
  exact bootstrap.settle_ne_disabled env.capture request.argv flag var (.start .fresh)

theorem bootstrapRun_of_same (optedOut : launch.config.disableSeccomp = true)
    (same : normalizeLabel launch.config.runtime = defaultRuntime) :
    bootstrapRun host (launch.childEnviron supervisor)
        (launchedRequest launch supervisor workload) =
      ((.disabled launch.disableVar,
          ((Outcome.disabled launch.disableVar).report (.fresh .unbounded)).2),
        { Session.start .fresh with
          trace := [.modeResolved .disabled defaultRuntime, .finished "disabled" false] }) := by
  have own := disableVar_launchedRequest bare supervisor workload
  have normal : normalizeLabel defaultRuntime = defaultRuntime := by decide
  have alike : (launchedRequest launch supervisor workload).config.disableVar =
      launch.disableVar := own.trans (disableVar_congr (normal.trans same.symm))
  have runtime : (launchedRequest launch supervisor workload).config.runtime = defaultRuntime := by
    rw [config_launchedRequest bare]
    rfl
  have flag := launch.isTrue_of_normalizeLabel_eq bare optedOut same supervisor
  rw [← own] at flag
  have events := (Outcome.disabled launch.disableVar).report_unbounded.1
  rw [bootstrapRun_of_disabled host flag, alike, runtime, events]
  rfl

theorem bootstrapRun_of_other (other : normalizeLabel launch.config.runtime ≠ defaultRuntime)
    (var : String) :
    (bootstrapRun host (launch.childEnviron supervisor)
      (launchedRequest launch supervisor workload)).1.1 ≠ .disabled var := by
  have own := disableVar_launchedRequest bare supervisor workload
  have flag : (launch.childEnviron supervisor).capture.isTrue (disableVar defaultRuntime) = false :=
    Bool.eq_false_iff.mpr (mt (launch.normalizeLabel_eq_of_isTrue bare) other)
  rw [← own] at flag
  exact bootstrapRun_ne_disabled host flag var

omit bare

theorem run_of_selected {host : Host} {env : RawEnvironment} {args : List Argument}
    {request : RunRequest} (selected : readArguments env args = .ok (.run request)) :
    run host env args = runRequest host.linking env request := by
  unfold run
  rw [selected]

/-- Settings that turn enforcement off reach a program that is launched with the run command and
with nothing added to its environment, if the launch is for the runtime that the program serves by
default: its bootstrap run is disabled, loads nothing and calls nothing, and the workload starts
behind one line. A launch for any other runtime sets a flag that the program does not look at, and
then its run is not disabled. -/
theorem optOut_reaches_program (launch : Launch) (supervisor : Environment) (workload : String)
    (commanded : launch.bootstrapArgs = ["run"]) (optedOut : launch.config.disableSeccomp = true)
    (bare : launch.extraEnv = []) (uidFits : launch.uid.toNat ≤ greatestId)
    (gidFits : launch.gid.toNat ≤ greatestId) (named : launch.workload = .ofString workload)
    (plain : workload.toList.head? ≠ some '-') :
    ∃ command request, launch.command supervisor = .ok command ∧
      readArguments command.environ command.args = .ok (.run request) ∧
      (normalizeLabel launch.config.runtime = defaultRuntime → ∀ host : Host,
        let ran := bootstrapRun host.linking command.environ request
        ran.1.1 = .disabled launch.disableVar ∧
          ran.2 = { Session.start .fresh with
            trace := [.modeResolved .disabled defaultRuntime, .finished "disabled" false] } ∧
          run host command.environ command.args =
            becomeWorkload host.linking.files command.environ request
              (bytes ("seccomp: disabled via " ++ launch.disableVar ++ "\n"))) ∧
      (normalizeLabel launch.config.runtime ≠ defaultRuntime → ∀ (host : Host) (var : String),
        (bootstrapRun host.linking command.environ request).1.1 ≠ .disabled var) := by
  have environ : (launch.commandOf supervisor workload).environ = launch.childEnviron supervisor :=
    rfl
  refine ⟨launch.commandOf supervisor workload, launchedRequest launch supervisor workload,
    launch.command_eq commanded uidFits gidFits named supervisor, ?_, ?_, ?_⟩
  · rw [environ]
    exact readArguments_commandOf bare supervisor workload plain
  · intro same host
    have disabled := bootstrapRun_of_same bare supervisor workload host.linking optedOut same
    have selected := readArguments_commandOf bare supervisor workload plain
    have written := (Outcome.disabled launch.disableVar).report_unbounded.2
    rw [Outcome.line_disabled] at written
    rw [environ, run_of_selected selected, runRequest, disabled, written]
    exact ⟨rfl, rfl, rfl⟩
  · intro other host var
    rw [environ]
    exact bootstrapRun_of_other bare supervisor workload host.linking other var

theorem optOut_reaches_program_of_spelling :
    let launch : Launch :=
      { Launch.ofWorkload (.ofString "gatehouse") (.ofString "/bin/true") 1000 100 with
        bootstrapArgs := ["run"]
        config := { LaunchConfig.default with
          runtime := " nodejs ", disableSeccomp := true, allowedSyscalls := [0, 1] } }
    let supervisor : Environment := ⟨[("DEBUG_SKIP_SECCOMP", "true")]⟩
    let host : Host :=
      { linking := { files := ⟨[], []⟩, directories := [], program := [] }
        vitals := { release := [], status := .error .missing, modeReply := 0 } }
    launch.bootstrapArgs = ["run"] ∧ launch.config.disableSeccomp = true ∧ launch.extraEnv = [] ∧
      launch.uid.toNat ≤ greatestId ∧ launch.gid.toNat ≤ greatestId ∧
      launch.workload = .ofString "/bin/true" ∧ "/bin/true".toList.head? ≠ some '-' ∧
      normalizeLabel launch.config.runtime = defaultRuntime ∧
      ∃ command request, launch.command supervisor = .ok command ∧
        readArguments command.environ command.args = .ok (.run request) ∧
        (bootstrapRun host.linking command.environ request).1.1 =
          .disabled "DISABLE_NODEJS_SECCOMP" ∧
        (bootstrapRun host.linking command.environ request).2.world = .fresh := by
  intro launch supervisor host
  have uidFits : launch.uid.toNat ≤ greatestId := by decide
  have gidFits : launch.gid.toNat ≤ greatestId := by decide
  have plain : "/bin/true".toList.head? ≠ some '-' := by decide
  have same : normalizeLabel launch.config.runtime = defaultRuntime := by decide
  have var : launch.disableVar = "DISABLE_NODEJS_SECCOMP" := by decide
  obtain ⟨command, request, made, read, reached, -⟩ :=
    optOut_reaches_program launch supervisor "/bin/true" rfl rfl rfl uidFits gidFits rfl plain
  obtain ⟨disabled, session, -⟩ := reached same host
  refine ⟨rfl, rfl, rfl, uidFits, gidFits, rfl, plain, same, command, request, made, read, ?_, ?_⟩
  · rw [disabled, var]
  · rw [session]
    rfl

/-- The settings of a launch for another runtime do not reach the program: it gets a flag that it
does not look at, and its run is not disabled. -/
theorem optOut_of_other_runtime :
    let launch : Launch :=
      { Launch.ofWorkload (.ofString "gatehouse") (.ofString "/bin/true") 1000 1000 with
        bootstrapArgs := ["run"]
        config := { LaunchConfig.default with runtime := "python", disableSeccomp := true } }
    let host : Host :=
      { linking := { files := ⟨[], []⟩, directories := [], program := [] }
        vitals := { release := [], status := .error .missing, modeReply := 0 } }
    ∃ command request, launch.command .empty = .ok command ∧
      readArguments command.environ command.args = .ok (.run request) ∧
      command.env.assignments = [("DISABLE_PYTHON_SECCOMP", "true")] ∧
      ∀ var, (bootstrapRun host.linking command.environ request).1.1 ≠ .disabled var := by
  intro launch host
  have plain : "/bin/true".toList.head? ≠ some '-' := by decide
  have other : normalizeLabel launch.config.runtime ≠ defaultRuntime := by decide
  have environ : (launch.commandOf .empty "/bin/true").environ = launch.childEnviron .empty := rfl
  refine ⟨launch.commandOf .empty "/bin/true", launchedRequest launch .empty "/bin/true",
    launch.command_eq rfl (by decide) (by decide) rfl .empty, ?_, by decide, ?_⟩
  · rw [environ]
    exact readArguments_commandOf rfl .empty "/bin/true" plain
  · rw [environ]
    exact bootstrapRun_of_other rfl .empty "/bin/true" host.linking other

end Cli

end SeccompBootstrap
