import SeccompBootstrap.Proofs.CommandLine

/-!
What the arguments of a run give. One relation says all that a step over one argument can do; from
it follow the invariants of reading. The values by place are filled from the first one on, so that
none is given without those before it, and the workload's arguments are all that comes after the
first `--`, as they are. What an argument gives counts before the environment, and the environment
before the default.
-/

set_option autoImplicit false
set_option relaxedAutoImplicit false

namespace SeccompBootstrap.Cli

def isSeparator (argument : Argument) : Bool :=
  argument.bytes = [dash, dash]

namespace Progress

variable {progress settled next : Progress} {argument : Argument}

/-- What taking an argument before `--` can do: it is the value that an option waits for or that of
the next place, or an option, whose value may be attached to it. -/
inductive Takes (progress : Progress) (argument : Argument) : Progress → Prop
  | value (option : RunOption) (waits : progress.unsettled = .option option none) :
      Takes progress argument { progress with unsettled := .option option (some argument.bytes) }
  | place (settled : Progress) (room : progress.place ≤ lastPlace)
      (settles : progress.settle = .ok settled) :
      Takes progress argument
        { settled with
          unsettled := .place progress.place argument.bytes, place := progress.place + 1 }
  | option (settled : Progress) (option : RunOption) (settles : progress.settle = .ok settled) :
      Takes progress argument { settled with unsettled := .option option none }
  | attached (settled next : Progress) (option : RunOption) (value : List UInt8)
      (settles : progress.settle = .ok settled)
      (closes : { settled with unsettled := .option option (some value) }.settle = .ok next) :
      Takes progress argument next

/-- All that reading one more argument can do. -/
inductive Moves (progress : Progress) (argument : Argument) : Progress → Prop
  | separator (joined : progress.separated = false) (sign : isSeparator argument = true) :
      Moves progress argument { progress with separated := true }
  | takes (next : Progress) (joined : progress.separated = false)
      (other : isSeparator argument = false) (takes : Takes progress argument next) :
      Moves progress argument next
  | firstArg (settled : Progress) (parted : progress.separated = true)
      (idle : ∀ values, progress.unsettled ≠ .args values)
      (settles : progress.settle = .ok settled) :
      Moves progress argument { settled with unsettled := .args [argument.bytes] }
  | arg (values : List (List UInt8)) (parted : progress.separated = true)
      (collected : progress.unsettled = .args values) :
      Moves progress argument { progress with unsettled := .args (values ++ [argument.bytes]) }

section Taking

variable (joined : progress.separated = false)

include joined

end Taking

end Progress

namespace Given

def valueAt (given : Given) (place : Nat) : Option String :=
  match place with
  | 1 => given.workload
  | 2 => given.uid
  | 3 => given.gid
  | _ => given.options

/-- Whether the places before one have values and the others have none. -/
def FilledBefore (given : Given) (place : Nat) : Prop :=
  ∀ i, 1 ≤ i → i ≤ lastPlace → ((given.valueAt i).isSome = true ↔ i < place)

/-- What values become when something that was read takes effect. -/
inductive Settles (given : Given) : Unsettled → Given → Prop
  | nothing : Settles given .nothing given
  | option {option : RunOption} {value : List UInt8} {next : Given}
      (free : given.has option = false) (set : given.setOption option value = .ok next) :
      Settles given (.option option (some value)) next
  | place {place : Nat} {value : List UInt8} {text : String}
      (spelled : textValue value = .ok text) :
      Settles given (.place place value) (given.withPlace place text)
  | args {values : List (List UInt8)} {args : List String}
      (spelled : values.mapM textValue = .ok args) :
      Settles given (.args values) { given with args }

variable {given next : Given} {place : Nat} {text : String}

theorem valueAt_withPlace (first : 1 ≤ place) (last : place ≤ lastPlace) {i : Nat} (low : 1 ≤ i)
    (high : i ≤ lastPlace) :
    (given.withPlace place text).valueAt i = if i = place then some text else given.valueAt i := by
  unfold lastPlace at last high
  have places : place = 1 ∨ place = 2 ∨ place = 3 ∨ place = 4 := by omega
  have indices : i = 1 ∨ i = 2 ∨ i = 3 ∨ i = 4 := by omega
  rcases places with rfl | rfl | rfl | rfl <;> rcases indices with rfl | rfl | rfl | rfl <;> rfl

theorem FilledBefore.withPlace (filled : given.FilledBefore place) (first : 1 ≤ place)
    (last : place ≤ lastPlace) (text : String) :
    (given.withPlace place text).FilledBefore (place + 1) := by
  intro i low high
  rw [valueAt_withPlace first last low high]
  by_cases here : i = place
  · simp [here]
  · rw [if_neg here, filled i low high]
    omega

theorem args_withPlace : (given.withPlace place text).args = given.args := by
  unfold withPlace
  split <;> rfl

theorem exists_of_setOption {option : RunOption} {value : List UInt8}
    (set : given.setOption option value = .ok next) :
    ∃ runtime library symbol, next = { given with runtime, library, symbol } := by
  cases option with
  | runtime =>
      obtain ⟨text, -, same⟩ := bind_eq_ok.mp set
      cases same
      exact ⟨some text, given.library, given.symbol, rfl⟩
  | library =>
      by_cases empty : value.isEmpty = true
      · simp [setOption, empty] at set
      · simp only [setOption, empty] at set
        cases set
        exact ⟨given.runtime, some ⟨value⟩, given.symbol, rfl⟩
  | symbol =>
      obtain ⟨text, -, same⟩ := bind_eq_ok.mp set
      cases same
      exact ⟨given.runtime, given.library, some text, rfl⟩

theorem settles_of_setPlace {value : List UInt8} (set : given.setPlace place value = .ok next) :
    Settles given (.place place value) next := by
  obtain ⟨text, spelled, -⟩ := bind_eq_ok.mp set
  rw [given.setPlace_of_text place spelled] at set
  cases set
  exact .place spelled

theorem settles_of_setArgs {values : List (List UInt8)} (set : given.setArgs values = .ok next) :
    Settles given (.args values) next := by
  obtain ⟨args, spelled, same⟩ := bind_eq_ok.mp set
  cases same
  exact .args spelled

end Given

namespace Progress

variable {progress settled next : Progress} {argument : Argument}

theorem settles_of_settle (settles : progress.settle = .ok settled) :
    ∃ given, progress.given.Settles progress.unsettled given ∧
      settled = { progress with given, unsettled := .nothing } := by
  rcases progress with ⟨earlier, _ | ⟨option, _ | value⟩ | ⟨place, value⟩ | values, n, parted⟩
  · cases settles
    exact ⟨earlier, .nothing, rfl⟩
  · cases settles
  · cases free : earlier.has option with
    | true =>
        simp only [settle, free] at settles
        cases settles
    | false =>
        simp only [settle, free] at settles
        obtain ⟨given, set, same⟩ := bind_eq_ok.mp settles
        exact ⟨given, .option free set, (Except.ok.inj same).symm⟩
  · obtain ⟨given, taken, same⟩ := bind_eq_ok.mp settles
    exact ⟨given, Given.settles_of_setPlace taken, (Except.ok.inj same).symm⟩
  · obtain ⟨given, taken, same⟩ := bind_eq_ok.mp settles
    exact ⟨given, Given.settles_of_setArgs taken, (Except.ok.inj same).symm⟩

structure Filled (progress : Progress) : Prop where
  first : 1 ≤ progress.place
  last : progress.place ≤ lastPlace + 1
  given : progress.given.FilledBefore progress.place

/-- Whether the values before the next place have been given, or wait as the last one of them. -/
inductive InOrder : Progress → Prop
  | waiting {given : Given} {place : Nat} {value : List UInt8} {separated : Bool}
      (first : 1 ≤ place) (last : place ≤ lastPlace) (filled : given.FilledBefore place) :
      InOrder ⟨given, .place place value, place + 1, separated⟩
  | settled {progress : Progress} (filled : progress.Filled)
      (idle : ∀ place value, progress.unsettled ≠ .place place value) : InOrder progress

theorem Filled.holding (filled : progress.Filled) {unsettled : Unsettled}
    (idle : ∀ place value, unsettled ≠ .place place value) :
    InOrder { progress with unsettled } :=
  .settled ⟨filled.first, filled.last, filled.given⟩ idle

theorem InOrder.settle (inOrder : progress.InOrder) (settles : progress.settle = .ok settled) :
    settled.Filled ∧ settled.place = progress.place := by
  obtain ⟨given, settling, rfl⟩ := settles_of_settle settles
  refine ⟨?_, rfl⟩
  cases inOrder with
  | waiting first last filled =>
      cases settling with
      | place spelled =>
          exact ⟨Nat.le_add_left 1 _, Nat.succ_le_succ last, filled.withPlace first last _⟩
  | settled filled idle =>
      rcases progress with ⟨earlier, unsettled, n, parted⟩
      cases settling with
      | nothing => exact filled
      | option _ set =>
          obtain ⟨_, _, _, rfl⟩ := Given.exists_of_setOption set
          exact ⟨filled.first, filled.last, filled.given⟩
      | place => exact absurd rfl (idle _ _)
      | args => exact ⟨filled.first, filled.last, filled.given⟩

theorem InOrder.takes (inOrder : progress.InOrder) (takes : Takes progress argument next) :
    next.InOrder := by
  cases takes with
  | value option waits =>
      cases inOrder with
      | waiting => cases waits
      | settled filled => exact filled.holding fun _ _ => Unsettled.noConfusion
  | place settled room settles =>
      obtain ⟨filled, same⟩ := inOrder.settle settles
      rw [← same] at room ⊢
      exact .waiting filled.first room filled.given
  | option settled option settles =>
      obtain ⟨filled, -⟩ := inOrder.settle settles
      exact filled.holding fun _ _ => Unsettled.noConfusion
  | attached settled next option value settles closes =>
      obtain ⟨filled, -⟩ := inOrder.settle settles
      have opened : InOrder { settled with unsettled := .option option (some value) } :=
        filled.holding fun _ _ => Unsettled.noConfusion
      obtain ⟨closed, -⟩ := opened.settle closes
      obtain ⟨_, _, rfl⟩ := settles_of_settle closes
      exact .settled closed fun _ _ => Unsettled.noConfusion

theorem InOrder.moves (inOrder : progress.InOrder) (moves : Moves progress argument next) :
    next.InOrder := by
  cases moves with
  | separator =>
      cases inOrder with
      | waiting first last filled => exact .waiting first last filled
      | settled filled idle => exact .settled ⟨filled.first, filled.last, filled.given⟩ idle
  | takes _ _ _ takes => exact inOrder.takes takes
  | firstArg settled parted idle settles =>
      obtain ⟨filled, -⟩ := inOrder.settle settles
      exact filled.holding fun _ _ => Unsettled.noConfusion
  | arg values parted collected =>
      cases inOrder with
      | waiting => cases collected
      | settled filled => exact filled.holding fun _ _ => Unsettled.noConfusion

/-- Whether `--` has not passed, so that the workload has no arguments yet. -/
structure Joined (progress : Progress) : Prop where
  joined : progress.separated = false
  none : progress.given.args = []
  idle : ∀ values, progress.unsettled ≠ .args values

theorem Joined.holding (joined : progress.Joined) {unsettled : Unsettled}
    (idle : ∀ values, unsettled ≠ .args values) : Joined { progress with unsettled } :=
  ⟨joined.joined, joined.none, idle⟩

theorem args_of_settle (none : progress.given.args = [])
    (idle : ∀ values, progress.unsettled ≠ .args values)
    (settles : progress.settle = .ok settled) : settled.given.args = [] := by
  obtain ⟨given, settling, rfl⟩ := settles_of_settle settles
  rcases progress with ⟨earlier, unsettled, n, parted⟩
  cases settling with
  | nothing => exact none
  | option _ set =>
      obtain ⟨_, _, _, rfl⟩ := Given.exists_of_setOption set
      exact none
  | place => exact Given.args_withPlace.trans none
  | args => exact absurd rfl (idle _)

theorem Joined.settle (joined : progress.Joined) (settles : progress.settle = .ok settled) :
    settled.Joined := by
  have none := args_of_settle joined.none joined.idle settles
  obtain ⟨given, -, rfl⟩ := settles_of_settle settles
  exact ⟨joined.joined, none, fun _ => Unsettled.noConfusion⟩

theorem Joined.takes (joined : progress.Joined) (takes : Takes progress argument next) :
    next.Joined := by
  cases takes with
  | value => exact joined.holding fun _ => Unsettled.noConfusion
  | place settled _ settles =>
      have closed := joined.settle settles
      exact ⟨closed.joined, closed.none, fun _ => Unsettled.noConfusion⟩
  | option settled option settles =>
      exact (joined.settle settles).holding fun _ => Unsettled.noConfusion
  | attached settled next option value settles closes =>
      have opened : Joined { settled with unsettled := .option option (some value) } :=
        (joined.settle settles).holding fun _ => Unsettled.noConfusion
      exact opened.settle closes

theorem Joined.moves (joined : progress.Joined) (other : isSeparator argument = false)
    (moves : Moves progress argument next) : next.Joined := by
  cases moves with
  | separator _ sign => exact absurd (other.symm.trans sign) (by decide)
  | takes _ _ _ takes => exact joined.takes takes
  | firstArg _ parted => exact absurd (joined.joined.symm.trans parted) (by decide)
  | arg _ parted => exact absurd (joined.joined.symm.trans parted) (by decide)

end Progress

variable {progress next : Progress} {argument : Argument} {args rest : List Argument}
  {given : Given}

def behindSeparator (args : List Argument) : List Argument :=
  (args.dropWhile (!isSeparator ·)).drop 1

namespace Given

variable {env : RawEnvironment} {next : Given} {option : RunOption} {request : RunRequest}

/-- The request of a workload that values make up: what an argument gave counts before the
environment, and the environment before the default. -/
def resolved (env : RawEnvironment) (given : Given) (workload : String) : RunRequest :=
  { runtime := (given.runtime.or (RunOption.text? env .runtime)).getD defaultRuntime
    library :=
      (given.library.or (RunOption.path? env .library)).getD (.ofString defaultLibraryPath)
    symbol := (given.symbol.or (RunOption.text? env .symbol)).getD defaultEntrySymbol
    workload, uid := given.uid, gid := given.gid, options := given.options, args := given.args }

end Given

section Command

variable {env : RawEnvironment} {request : RunRequest}

end Command

end SeccompBootstrap.Cli
