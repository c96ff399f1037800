import SeccompBootstrap.Cli.Start
import SeccompBootstrap.Proofs.Launch
import SeccompBootstrap.Proofs.Parameters

/-!
From a launch to the command line of the program. Arguments that no option begins with are taken by
place, what follows `--` goes to the workload whatever it looks like, and only a variable of the
environment that holds no value of its option can keep the run command from being selected.
-/

set_option autoImplicit false
set_option relaxedAutoImplicit false

namespace SeccompBootstrap.Cli

open Text.Utf8 (decode?)

theorem textValue_bytes (s : String) : textValue (Text.Utf8.bytes s) = .ok s := by
  simp [textValue]

theorem Token.ofArgument_of_plain {argument : Argument} (plain : argument.bytes.head? ≠ some dash) :
    ofArgument argument = .word := by
  obtain ⟨_ | ⟨b, bs⟩⟩ := argument
  · rfl
  · have other : b ≠ 0x2D := fun same => plain (congrArg some same)
    unfold ofArgument
    split <;> simp_all

theorem Token.ofArgument_ofString {s : String} (plain : s.toList.head? ≠ some '-') :
    ofArgument (.ofString s) = .word := by
  refine ofArgument_of_plain fun begins => plain ?_
  exact Text.Utf8.head?_of_head?_encode (by decide) begins

namespace Progress

variable {given next : Given} {place n : Nat} {value : List UInt8} {argument : Argument}

theorem step_first (word : Token.ofArgument argument = .word) :
    step start argument = .ok (.more ⟨.nothing, .place 1 argument.bytes, 2, false⟩) := by
  simp [step, start, word, takeValue, takePlace, settle, lastPlace, bind, Except.bind, pure,
    Except.pure]

theorem step_place (taken : given.setPlace place value = .ok next) (room : n ≤ lastPlace)
    (word : Token.ofArgument argument = .word) :
    step ⟨given, .place place value, n, false⟩ argument =
      .ok (.more ⟨next, .place n argument.bytes, n + 1, false⟩) := by
  have admitted : ¬ lastPlace < n := by omega
  simp [step, word, takeValue, takePlace, settle, admitted, taken, bind, Except.bind, pure,
    Except.pure]

theorem step_separator (given : Given) (unsettled : Unsettled) (n : Nat) :
    step ⟨given, unsettled, n, false⟩ (.ofString "--") =
      .ok (.more ⟨given, unsettled, n, true⟩) := by
  have separator : Token.ofArgument (.ofString "--") = .separator := by decide
  simp [step, separator]

theorem step_firstArg (taken : given.setPlace place value = .ok next) :
    step ⟨given, .place place value, n, true⟩ argument =
      .ok (.more ⟨next, .args [argument.bytes], n, true⟩) := by
  simp [step, takePlace, settle, taken, bind, Except.bind, pure, Except.pure]

theorem step_arg (given : Given) (values : List (List UInt8)) (n : Nat) (argument : Argument) :
    step ⟨given, .args values, n, true⟩ argument =
      .ok (.more ⟨given, .args (values ++ [argument.bytes]), n, true⟩) := by
  simp [step, takePlace, bind, Except.bind, pure, Except.pure]

end Progress

def Given.withPlace (given : Given) (place : Nat) (text : String) : Given :=
  match place with
  | 1 => { given with workload := some text }
  | 2 => { given with uid := some text }
  | 3 => { given with gid := some text }
  | _ => { given with options := some text }

theorem Given.setPlace_of_text (given : Given) (place : Nat) {value : List UInt8} {text : String}
    (spelled : textValue value = .ok text) :
    given.setPlace place value = .ok (given.withPlace place text) := by
  rw [setPlace, spelled]
  rcases place with _ | _ | _ | _ | later <;> rfl

theorem Given.setPlace_ofString (given : Given) (place : Nat) (text : String) :
    given.setPlace place (Argument.ofString text).bytes = .ok (given.withPlace place text) :=
  given.setPlace_of_text place (textValue_bytes text)

def Given.finish (env : RawEnvironment) (given : Given) : Except UsageError Request := do
  return .run (← (← given.fillIn env).request)

variable {env : RawEnvironment} {progress next : Progress} {argument : Argument}
  {rest : List Argument}

theorem readRun_cons (stepped : progress.step argument = .ok (.more next)) :
    readRun env progress (argument :: rest) = readRun env next rest := by
  rw [readRun, stepped]
  rfl

theorem readRun_nil (settled : progress.settle = .ok next) :
    readRun env progress [] = next.given.finish env := by
  rw [readRun, settled]
  rfl

def readGiven (progress : Progress) : List Argument → Except UsageError (Option Given)
  | [] => do return some (← progress.settle).given
  | argument :: rest => do
    match ← progress.step argument with
    | .help => return none
    | .more progress => readGiven progress rest

/-- The environment is asked only after all arguments have been read. -/
theorem readRun_eq (env : RawEnvironment) (progress : Progress) (args : List Argument) :
    readRun env progress args = (do
      match ← readGiven progress args with
      | none => return .help .run
      | some given => given.finish env) := by
  induction args generalizing progress with
  | nil =>
      rw [readRun, readGiven]
      rcases progress.settle with error | settled <;> rfl
  | cons argument rest ih =>
      rw [readRun, readGiven]
      rcases progress.step argument with error | (progress | -)
      · rfl
      · exact ih progress
      · rfl

theorem readGiven_cons (stepped : progress.step argument = .ok (.more next)) :
    readGiven progress (argument :: rest) = readGiven next rest := by
  rw [readGiven, stepped]
  rfl

theorem readGiven_args (given : Given) (values : List (List UInt8)) (n : Nat) :
    readGiven ⟨given, .args values, n, true⟩ rest =
      readGiven ⟨given, .args (values ++ rest.map Argument.bytes), n, true⟩ [] := by
  induction rest generalizing values with
  | nil => simp
  | cons argument rest ih =>
      rw [readGiven_cons (Progress.step_arg given values n argument), ih]
      simp

theorem readRun_args (given : Given) (values : List (List UInt8)) (n : Nat) :
    readRun env ⟨given, .args values, n, true⟩ rest =
      readRun env ⟨given, .args (values ++ rest.map Argument.bytes), n, true⟩ [] := by
  rw [readRun_eq, readRun_eq, readGiven_args]

theorem mapM_textValue (texts : List String) :
    (texts.map Text.Utf8.bytes).mapM textValue = .ok texts := by
  induction texts with
  | nil => rfl
  | cons text texts ih =>
      rw [List.map_cons, List.mapM_cons, textValue_bytes, ih]
      rfl

/-- Whatever the workload's arguments are, they come after the value of the last place. -/
theorem readRun_separatedArgs {given next : Given} {place n : Nat} {value : List UInt8}
    (taken : given.setPlace place value = .ok next) (bare : next.args = []) (launch : Launch) :
    readRun env ⟨given, .place place value, n, false⟩ (launch.separatedArgs.map .ofString) =
      Given.finish env { next with args := launch.workloadArgs } := by
  unfold Launch.separatedArgs
  rcases launch.workloadArgs with _ | ⟨first, others⟩
  · have settled : Progress.settle ⟨given, .place place value, n, false⟩ =
        .ok ⟨next, .nothing, n, false⟩ := by
      simp [Progress.settle, taken, bind, Except.bind, pure, Except.pure]
    have same : { next with args := [] } = next := by
      rw [← bare]
    rw [same]
    exact readRun_nil settled
  · let values := (first :: others).map Text.Utf8.bytes
    have read : values.mapM textValue = .ok (first :: others) := mapM_textValue (first :: others)
    have settled : Progress.settle ⟨next, .args values, n, true⟩ =
        .ok ⟨{ next with args := first :: others }, .nothing, n, true⟩ := by
      simp [Progress.settle, Given.setArgs, read, bind, Except.bind, pure, Except.pure]
    have collected : [(Argument.ofString first).bytes] ++
        (others.map Argument.ofString).map Argument.bytes = values := by
      simp [values, Argument.ofString]
    calc
      readRun env ⟨given, .place place value, n, false⟩
          ((if (first :: others).isEmpty then [] else "--" :: first :: others).map .ofString)
          = readRun env ⟨given, .place place value, n, true⟩
              ((first :: others).map .ofString) :=
            readRun_cons (Progress.step_separator given (.place place value) n)
      _ = readRun env ⟨next, .args [(Argument.ofString first).bytes], n, true⟩
            (others.map .ofString) := readRun_cons (Progress.step_firstArg taken)
      _ = readRun env ⟨next, .args values, n, true⟩ [] := by rw [readRun_args, collected]
      _ = Given.finish env { next with args := first :: others } := readRun_nil settled

/-- What the arguments of a launch give: a workload, three more values and the workload's own
arguments. -/
def Given.ofLaunch (launch : Launch) (workload : String) : Given :=
  { Given.nothing with
    workload := some workload
    uid := some (toString launch.uid.toNat)
    gid := some (toString launch.gid.toNat)
    options := some launch.capabilities.toJson
    args := launch.workloadArgs }

theorem head?_toString_ne (n : Nat) : (toString n).toList.head? ≠ some '-' := by
  intro begins
  exact Text.not_mem_toString (by decide) n (List.mem_of_head? begins)

theorem head?_toJson_ne (c : Capabilities) : c.toJson.toList.head? ≠ some '-' := by
  obtain ⟨_ | _⟩ := c
  · decide
  · decide

theorem readRun_launch (env : RawEnvironment) (launch : Launch) {workload : String}
    (plain : workload.toList.head? ≠ some '-') :
    readRun env .start (.ofString workload :: launch.positionalArgs.map Argument.ofString) =
      (Given.ofLaunch launch workload).finish env := by
  let uid := toString launch.uid.toNat
  let gid := toString launch.gid.toNat
  let options := launch.capabilities.toJson
  let first := Given.nothing.withPlace 1 workload
  let second := first.withPlace 2 uid
  let third := second.withPlace 3 gid
  have uidWord := Token.ofArgument_ofString (head?_toString_ne launch.uid.toNat)
  have gidWord := Token.ofArgument_ofString (head?_toString_ne launch.gid.toNat)
  have optionsWord := Token.ofArgument_ofString (head?_toJson_ne launch.capabilities)
  have positional : launch.positionalArgs.map Argument.ofString =
      .ofString uid :: .ofString gid :: .ofString options ::
        launch.separatedArgs.map .ofString := rfl
  rw [positional, readRun_cons (Progress.step_first (Token.ofArgument_ofString plain)),
    readRun_cons (Progress.step_place (Given.nothing.setPlace_ofString 1 workload) (by decide)
      uidWord),
    readRun_cons (Progress.step_place (first.setPlace_ofString 2 uid) (by decide) gidWord),
    readRun_cons (Progress.step_place (second.setPlace_ofString 3 gid) (by decide) optionsWord),
    readRun_separatedArgs (third.setPlace_ofString 4 options) rfl launch]
  rfl

/-- Whether bytes are a value of an option: any but none for a library, a text for the others. -/
def RunOption.Accepts : RunOption → List UInt8 → Prop
  | .library, value => value ≠ []
  | _, value => (decode? value).isSome = true

def RunOption.ReadableIn (env : RawEnvironment) (option : RunOption) : Prop :=
  ∀ value, env.get? option.envName = some value → option.Accepts value

def RunOption.text? (env : RawEnvironment) (option : RunOption) : Option String :=
  (env.get? option.envName).bind decode?

def RunOption.path? (env : RawEnvironment) (option : RunOption) : Option Path :=
  (env.get? option.envName).map Path.mk

namespace Given

def withOption (env : RawEnvironment) (given : Given) : RunOption → Given
  | .runtime => { given with runtime := RunOption.text? env .runtime }
  | .library => { given with library := RunOption.path? env .library }
  | .symbol => { given with symbol := RunOption.text? env .symbol }

def fillOne (env : RawEnvironment) (given : Given) (option : RunOption) : Except UsageError Given :=
  if given.has option then .ok given
  else match env.get? option.envName with
    | none => .ok given
    | some value => given.setOption option value

theorem fillIn_eq (env : RawEnvironment) (given : Given) :
    given.fillIn env = (do
      let given ← given.fillOne env .runtime
      let given ← given.fillOne env .library
      given.fillOne env .symbol) := by
  have steps : given.fillIn env = RunOption.all.foldlM (fillOne env) given := rfl
  rw [steps]
  simp [RunOption.all]

variable {env : RawEnvironment} {given next : Given} {option : RunOption}

private theorem withOption_of_unnamed (free : given.has option = false)
    (unnamed : env.get? option.envName = none) : given.withOption env option = given := by
  obtain ⟨runtime, library, symbol, _, _, _, _, _⟩ := given
  cases option <;> simp_all [has, withOption, RunOption.text?, RunOption.path?]

theorem fillOne_of_readable (free : given.has option = false) (readable : option.ReadableIn env) :
    given.fillOne env option = .ok (given.withOption env option) := by
  rw [fillOne, free, if_neg Bool.false_ne_true]
  rcases found : env.get? option.envName with _ | value
  · exact congrArg Except.ok (withOption_of_unnamed free found).symm
  · have accepted := readable value found
    cases option with
    | runtime =>
        obtain ⟨text, read⟩ := Option.isSome_iff_exists.mp accepted
        simp [setOption, textValue, withOption, RunOption.text?, found, read, bind, Except.bind,
          pure, Except.pure]
    | library =>
        have present : value ≠ [] := accepted
        simp [setOption, withOption, RunOption.path?, found, present]
    | symbol =>
        obtain ⟨text, read⟩ := Option.isSome_iff_exists.mp accepted
        simp [setOption, textValue, withOption, RunOption.text?, found, read, bind, Except.bind,
          pure, Except.pure]

theorem readable_of_fillOne (free : given.has option = false)
    (filled : given.fillOne env option = .ok next) : option.ReadableIn env := by
  intro value found
  rw [fillOne, free, if_neg Bool.false_ne_true, found] at filled
  cases option with
  | runtime =>
      rcases read : decode? value with _ | text
      · simp [setOption, textValue, read, bind, Except.bind] at filled
      · simp [RunOption.Accepts, read]
  | library =>
      rintro rfl
      simp [setOption] at filled
  | symbol =>
      rcases read : decode? value with _ | text
      · simp [setOption, textValue, read, bind, Except.bind] at filled
      · simp [RunOption.Accepts, read]

structure Bare (given : Given) : Prop where
  runtime : given.runtime = none
  library : given.library = none
  symbol : given.symbol = none

theorem fillIn_of_readable (bare : given.Bare)
    (readable : ∀ option : RunOption, option.ReadableIn env) :
    given.fillIn env = .ok { given with
      runtime := RunOption.text? env .runtime
      library := RunOption.path? env .library
      symbol := RunOption.text? env .symbol } := by
  let first := given.withOption env .runtime
  let second := first.withOption env .library
  have firstFilled : given.fillOne env .runtime = .ok first :=
    fillOne_of_readable (by simp [has, bare.runtime]) (readable .runtime)
  have secondFilled : first.fillOne env .library = .ok second :=
    fillOne_of_readable (by simp [has, first, withOption, bare.library]) (readable .library)
  have thirdFilled : second.fillOne env .symbol = .ok (second.withOption env .symbol) :=
    fillOne_of_readable (by simp [has, second, first, withOption, bare.symbol]) (readable .symbol)
  rw [fillIn_eq, firstFilled]
  simp only [bind, Except.bind]
  rw [secondFilled]
  exact thirdFilled

theorem readable_of_fillIn (bare : given.Bare) (filled : given.fillIn env = .ok next) :
    ∀ option : RunOption, option.ReadableIn env := by
  rw [fillIn_eq] at filled
  obtain ⟨first, firstFilled, filled⟩ := bind_eq_ok.mp filled
  have runtimeFree : given.has .runtime = false := by simp [has, bare.runtime]
  have runtime := readable_of_fillOne runtimeFree firstFilled
  rw [fillOne_of_readable runtimeFree runtime] at firstFilled
  obtain rfl := Except.ok.inj firstFilled
  obtain ⟨second, secondFilled, filled⟩ := bind_eq_ok.mp filled
  have libraryFree : (given.withOption env .runtime).has .library = false := by
    simp [has, withOption, bare.library]
  have library := readable_of_fillOne libraryFree secondFilled
  rw [fillOne_of_readable libraryFree library] at secondFilled
  obtain rfl := Except.ok.inj secondFilled
  have symbol := readable_of_fillOne (by simp [has, withOption, bare.symbol]) filled
  intro option
  cases option with
  | runtime => exact runtime
  | library => exact library
  | symbol => exact symbol

end Given

def RunRequest.ofLaunch (env : RawEnvironment) (launch : Launch) (workload : String) : RunRequest :=
  { runtime := (RunOption.text? env .runtime).getD defaultRuntime
    library := (RunOption.path? env .library).getD (.ofString defaultLibraryPath)
    symbol := (RunOption.text? env .symbol).getD defaultEntrySymbol
    workload
    uid := some (toString launch.uid.toNat)
    gid := some (toString launch.gid.toNat)
    options := some launch.capabilities.toJson
    args := launch.workloadArgs }

theorem Given.bare_ofLaunch (launch : Launch) (workload : String) :
    (Given.ofLaunch launch workload).Bare := ⟨rfl, rfl, rfl⟩

theorem readArguments_run (env : RawEnvironment) (rest : List Argument) :
    readArguments env (.ofString "run" :: rest) = readRun env .start rest := by
  have named : command? (.ofString "run") = some .run := by
    simp [command?, Argument.text?, Argument.ofString]
  unfold readArguments
  simp only [named]

/-- The program that gets the arguments of a launch after `run` selects the run command with the
workload, the ids and the options of the launch, and with the workload's arguments as they are, no
matter what they look like. It does so in every environment except one that gives an option a value
it does not accept. The bootstrap run then reads the parameters of the launch. -/
theorem readArguments_launch (launch : Launch) (workload : String)
    (commanded : launch.bootstrapArgs = ["run"]) (uidFits : launch.uid.toNat ≤ greatestId)
    (gidFits : launch.gid.toNat ≤ greatestId) (named : launch.workload = .ofString workload)
    (plain : workload.toList.head? ≠ some '-') :
    ∃ args, launch.args = .ok args ∧ ∀ env : RawEnvironment,
      ((∀ option : RunOption, option.ReadableIn env) →
        readArguments env args = .ok (.run (.ofLaunch env launch workload))) ∧
      ((¬ ∀ option : RunOption, option.ReadableIn env) →
        ∃ error, readArguments env args = .error error) ∧
      Parameters.ofArguments (RunRequest.ofLaunch env launch workload).argv =
        .ok ⟨launch.uid, launch.gid, ⟨launch.config.enableNetwork⟩⟩ := by
  have uidFits : fitsInt32 launch.uid = true := decide_eq_true uidFits
  have gidFits : fitsInt32 launch.gid = true := decide_eq_true gidFits
  have given := Launch.args_eq_ok_iff.mpr ⟨uidFits, gidFits, rfl⟩
  refine ⟨_, given, fun env => ?_⟩
  have line : launch.bootstrapArgs.map Argument.ofString ++ Argument.ofPath launch.workload ::
      launch.positionalArgs.map Argument.ofString =
        Argument.ofString "run" :: .ofString workload ::
          launch.positionalArgs.map Argument.ofString := by
    rw [commanded, named]
    rfl
  have bare := Given.bare_ofLaunch launch workload
  rw [line, readArguments_run, readRun_launch env launch plain]
  refine ⟨?_, ?_, ?_⟩
  · intro readable
    rw [Given.finish, Given.fillIn_of_readable bare readable]
    rfl
  · intro unreadable
    rcases filled : (Given.ofLaunch launch workload).fillIn env with error | next
    · exact ⟨error, by rw [Given.finish, filled]; rfl⟩
    · exact absurd (Given.readable_of_fillIn bare filled) unreadable
  · exact Parameters.ofArguments_written ⟨launch.uid, launch.gid, launch.capabilities⟩ uidFits
      gidFits "gatehouse" workload []

theorem readArguments_launch_of_options :
    let launch : Launch :=
      { Launch.ofWorkload (.ofString "gatehouse") (.ofString "/bin/echo") 1000 100 with
        bootstrapArgs := ["run"]
        workloadArgs := ["", "--", "--library", "-h"] }
    launch.bootstrapArgs = ["run"] ∧ launch.uid.toNat ≤ greatestId ∧
      launch.gid.toNat ≤ greatestId ∧ launch.workload = .ofString "/bin/echo" ∧
      "/bin/echo".toList.head? ≠ some '-' ∧
      ∃ args, launch.args = .ok args ∧
        readArguments ⟨[]⟩ args = .ok (.run
          { runtime := "NODEJS"
            library := .ofString "./var/sandbox/sandbox-nodejs/nodejs.so"
            symbol := "DifySeccomp"
            workload := "/bin/echo"
            uid := some "1000"
            gid := some "100"
            options := some "\x7b\"enable_network\":false\x7d"
            args := ["", "--", "--library", "-h"] }) := by
  intro launch
  have uidFits : launch.uid.toNat ≤ greatestId := by decide
  have gidFits : launch.gid.toNat ≤ greatestId := by decide
  have plain : "/bin/echo".toList.head? ≠ some '-' := by decide
  obtain ⟨args, given, read⟩ :=
    readArguments_launch launch "/bin/echo" rfl uidFits gidFits rfl plain
  have selected := (read ⟨[]⟩).1 fun option value found => by cases found
  refine ⟨rfl, uidFits, gidFits, rfl, plain, args, given, selected.trans ?_⟩
  refine congrArg (fun request => Except.ok (Request.run request)) ?_
  decide +kernel

end SeccompBootstrap.Cli
