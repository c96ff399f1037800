import SeccompBootstrap.Bootstrap
import SeccompBootstrap.Proofs.Session

/-!
The stages of a bootstrap run. Each stage has one lemma for every way in which it ends, and a run of
the whole bootstrap is put together from them: the mode, the load, the parameters, the call. Of a
sequence of activities `episodes` lists each with the session before it and the session after it,
and what every single activity keeps holds along the whole sequence.
-/

set_option autoImplicit false
set_option relaxedAutoImplicit false

namespace SeccompBootstrap

namespace ActivationMode

variable {env : Environment} {config : Config}

theorem resolve_eq_active_iff :
    resolve env config = .active ↔
      env.isTrue config.disableVar = false ∧ env.isTrue skipVar = false := by
  unfold resolve
  split <;> simp_all

theorem resolve_of_disabled (flag : env.isTrue config.disableVar = true) :
    resolve env config = .disabled := by
  simp [resolve, flag]

theorem resolve_of_skipped (flag : env.isTrue config.disableVar = false)
    (skip : env.isTrue skipVar = true) : resolve env config = .debugSkip := by
  simp [resolve, flag, skip]

end ActivationMode

/-- Whether the steps of a loader and of the bindings that it obtains are silent. -/
structure Loader.Silent {σ ε : Type} (loader : Loader σ ε) : Prop where
  load : loader.load.Silent
  call : ∀ (s after : Session σ) (binding : Binding σ), loader.load.run s = (.ok binding, after) →
    ∀ uid gid enableNetwork, (binding.enforce uid gid enableNetwork).Silent

namespace Bootstrap

variable {σ ε : Type}

section Call

variable (binding : Binding σ) {argv : List String}

theorem run_enforceOnce_of_unread {error : ParameterError}
    (unread : Parameters.ofArguments argv = .error error) (s : Session σ) :
    (enforceOnce binding argv).run s = (.error (.failure (.parameters error)), s) := by
  simp [enforceOnce, Action.run_bind, Action.run_mapError, unread, Trouble.map]

variable {p : Parameters} {s called : Session σ}

theorem run_enforceOnce_of_call (read : Parameters.ofArguments argv = .ok p)
    (call : (binding.enforce p.uid p.gid p.capabilities.enableNetwork).run
      { s with trace := s.trace ++ [.parametersParsed p] } = (.ok (), called)) :
    (enforceOnce binding argv).run s = (.ok p, called) := by
  simp [enforceOnce, Action.run_bind, Action.run_mapError, read, call, Except.map]

theorem run_enforceOnce_of_call_trouble {trouble : Trouble EnforcementError}
    (read : Parameters.ofArguments argv = .ok p)
    (call : (binding.enforce p.uid p.gid p.capabilities.enableNetwork).run
      { s with trace := s.trace ++ [.parametersParsed p] } = (.error trouble, called)) :
    (enforceOnce binding argv).run s = (.error (trouble.map .enforcement), called) := by
  simp [enforceOnce, Action.run_bind, Action.run_mapError, read, call, Except.map]

theorem silent_enforceOnce (argv : List String)
    (silent : ∀ uid gid enableNetwork, (binding.enforce uid gid enableNetwork).Silent) :
    (enforceOnce binding argv).Silent := by
  refine Action.silent_bind (Action.silent_mapError _ (Action.silent_ofExcept _)) fun p => ?_
  refine Action.silent_bind (Action.silent_emit _) fun _ => ?_
  refine Action.silent_bind (Action.silent_mapError _ (silent _ _ _)) fun _ => ?_
  exact Action.silent_pure p

end Call

variable (bootstrap : Bootstrap σ ε) (env : Environment) (argv : List String)

section Attempt

variable {s loaded called : Session σ} {binding : Binding σ}

theorem attempt_of_load_trouble {trouble : Trouble ε}
    (load : bootstrap.loader.load.run { s with quiet := true } = (.error trouble, loaded)) :
    bootstrap.attempt argv s =
      (.loadFailure (trouble.detail bootstrap.loader.describe),
        { loaded with quiet := s.quiet }) := by
  simp [attempt, absorb_apply, load, Flow.ofResult]

theorem attempt_of_call_trouble {trouble : Trouble InitError}
    (load : bootstrap.loader.load.run { s with quiet := true } = (.ok binding, loaded))
    (call : (enforceOnce binding argv).run { loaded with quiet := true } =
      (.error trouble, called)) :
    bootstrap.attempt argv s =
      (.initFailure (trouble.detail InitError.message), { called with quiet := s.quiet }) := by
  simp [attempt, absorb_apply, load, call, Flow.ofResult]

theorem attempt_of_call {p : Parameters}
    (load : bootstrap.loader.load.run { s with quiet := true } = (.ok binding, loaded))
    (call : (enforceOnce binding argv).run { loaded with quiet := true } = (.ok p, called)) :
    bootstrap.attempt argv s = (.enforced p, { called with quiet := s.quiet }) := by
  simp [attempt, absorb_apply, load, call, Flow.ofResult]

end Attempt

/-- The ends of an attempt: a failure of the load or of the call, with its reason on a single line,
or enforcement. -/
inductive Attempted : Outcome → Prop
  | loadFailure (message : String) : Attempted (.loadFailure (Text.singleLine message))
  | initFailure (message : String) : Attempted (.initFailure (Text.singleLine message))
  | enforced (p : Parameters) : Attempted (.enforced p)

theorem attempted_attempt (s : Session σ) : Attempted (bootstrap.attempt argv s).1 := by
  rcases load : bootstrap.loader.load.run { s with quiet := true } with
    ⟨trouble | binding, loaded⟩
  · rw [attempt_of_load_trouble bootstrap argv load]
    exact .loadFailure _
  · rcases called : (enforceOnce binding argv).run { loaded with quiet := true } with
      ⟨trouble | p, after⟩
    · rw [attempt_of_call_trouble bootstrap argv load called]
      exact .initFailure _
    · rw [attempt_of_call bootstrap argv load called]
      exact .enforced p

def resolved (s : Session σ) : Session σ :=
  { s with
    trace := s.trace ++
      [.modeResolved (ActivationMode.resolve env bootstrap.config) bootstrap.config.runtime] }

theorem settle_of_disabled (flag : env.isTrue bootstrap.config.disableVar = true) (s : Session σ) :
    bootstrap.settle env argv s =
      (.disabled bootstrap.config.disableVar, bootstrap.resolved env s) := by
  simp [settle, resolved, ActivationMode.resolve_of_disabled flag]

theorem settle_of_skipped (flag : env.isTrue bootstrap.config.disableVar = false)
    (skip : env.isTrue skipVar = true) (s : Session σ) :
    bootstrap.settle env argv s = (.debugSkip skipVar, bootstrap.resolved env s) := by
  simp [settle, resolved, ActivationMode.resolve_of_skipped flag skip]

theorem settle_of_active (active : ActivationMode.resolve env bootstrap.config = .active)
    (s : Session σ) :
    bootstrap.settle env argv s = bootstrap.attempt argv (bootstrap.resolved env s) := by
  simp [settle, resolved, active]

theorem settle_ne_disabled (flag : env.isTrue bootstrap.config.disableVar = false) (var : String)
    (s : Session σ) : (bootstrap.settle env argv s).1 ≠ .disabled var := by
  cases skip : env.isTrue skipVar with
  | true =>
      rw [settle_of_skipped bootstrap env argv flag skip]
      exact Outcome.noConfusion
  | false =>
      have active := ActivationMode.resolve_eq_active_iff.mpr ⟨flag, skip⟩
      rw [settle_of_active bootstrap env argv active]
      intro disabled
      have attempted := bootstrap.attempted_attempt argv (bootstrap.resolved env s)
      rw [disabled] at attempted
      cases attempted

/-- No panic of a load or of a call is seen, whatever the run comes to. -/
theorem panicsSeen_settle (silent : bootstrap.loader.Silent) (s : Session σ) :
    (bootstrap.settle env argv s).2.panicsSeen = s.panicsSeen := by
  cases mode : ActivationMode.resolve env bootstrap.config with
  | disabled => simp [settle, mode]
  | debugSkip => simp [settle, mode]
  | active =>
      rw [settle_of_active bootstrap env argv mode]
      have kept := silent.load { bootstrap.resolved env s with quiet := true } rfl
      rcases load : bootstrap.loader.load.run { bootstrap.resolved env s with quiet := true } with
        ⟨trouble | binding, loaded⟩
      · rw [attempt_of_load_trouble bootstrap argv load]
        rw [load] at kept
        exact kept.2
      · rw [load] at kept
        have enforced := silent_enforceOnce binding argv (silent.call _ _ _ load)
        have still := enforced { loaded with quiet := true } rfl
        rcases called : (enforceOnce binding argv).run { loaded with quiet := true } with
          ⟨trouble | p, after⟩
        · rw [attempt_of_call_trouble bootstrap argv load called]
          rw [called] at still
          exact still.2.trans kept.2
        · rw [attempt_of_call bootstrap argv load called]
          rw [called] at still
          exact still.2.trans kept.2

/-- The report of an outcome changes neither the outcome nor the world. -/
theorem run_eq (stream : Stream) (s : Session σ) :
    bootstrap.run env argv stream s =
      (((bootstrap.settle env argv s).1, ((bootstrap.settle env argv s).1.report stream).2),
        { (bootstrap.settle env argv s).2 with
          trace := (bootstrap.settle env argv s).2.trace ++
            ((bootstrap.settle env argv s).1.report stream).1 }) := by
  simp [run]

end Bootstrap

/-- One activity of a sequence: what it was given, the session before it, its result and the session
after it. -/
structure Episode (σ ι α : Type) where
  input : ι
  before : Session σ
  result : α
  after : Session σ

namespace Activity

variable {σ ι α : Type}

def episode (perform : ι → Activity σ α) (input : ι) (s : Session σ) : Episode σ ι α :=
  { input, before := s, result := (perform input s).1, after := (perform input s).2 }

def episodes (perform : ι → Activity σ α) : List ι → Session σ → List (Episode σ ι α)
  | [], _ => []
  | input :: rest, s => episode perform input s :: episodes perform rest (perform input s).2

def sessionAfter (perform : ι → Activity σ α) (inputs : List ι) (s : Session σ) : Session σ :=
  inputs.foldl (fun s input => (perform input s).2) s

variable (perform : ι → Activity σ α)

@[simp] theorem sessionAfter_cons (input : ι) (rest : List ι) (s : Session σ) :
    sessionAfter perform (input :: rest) s = sessionAfter perform rest (perform input s).2 := rfl

theorem map_input_episodes (inputs : List ι) (s : Session σ) :
    (episodes perform inputs s).map Episode.input = inputs := by
  induction inputs generalizing s with
  | nil => rfl
  | cons input rest ih =>
      simp only [episodes, List.map_cons, ih]
      rfl

theorem episodes_take (inputs : List ι) (k : Nat) (s : Session σ) :
    episodes perform (inputs.take k) s = (episodes perform inputs s).take k := by
  induction inputs generalizing k s with
  | nil => simp [episodes]
  | cons input rest ih =>
      cases k with
      | zero => rfl
      | succ k => simp only [List.take_succ_cons, episodes, ih]

theorem before_eq_after_of_episodes {inputs : List ι} {s : Session σ}
    {earlier later : List (Episode σ ι α)} {first second : Episode σ ι α}
    (split : episodes perform inputs s = earlier ++ first :: second :: later) :
    second.before = first.after := by
  induction earlier generalizing inputs s with
  | nil =>
      match inputs with
      | [] => cases split
      | [input] => cases split
      | input :: next :: rest =>
          cases split
          rfl
  | cons e earlier ih =>
      cases inputs with
      | nil => cases split
      | cons input rest => exact ih (List.cons.inj split).2

/-- What an activity keeps holds before and after each episode, and at the end. -/
theorem invariant_along (Inv : Session σ → Prop)
    (kept : ∀ input s, Inv s → Inv (perform input s).2) (inputs : List ι) {s : Session σ}
    (start : Inv s) :
    (∀ e ∈ episodes perform inputs s, Inv e.before ∧ Inv e.after) ∧
      Inv (sessionAfter perform inputs s) := by
  induction inputs generalizing s with
  | nil => exact ⟨by simp [episodes], start⟩
  | cons input rest ih =>
      have next := kept input s start
      obtain ⟨later, last⟩ := ih next
      refine ⟨?_, last⟩
      intro e member
      rcases List.mem_cons.mp member with rfl | member
      · exact ⟨start, next⟩
      · exact later e member

theorem forall_mem_episodes {P : Episode σ ι α → Prop}
    (each : ∀ input s, P (episode perform input s)) (inputs : List ι) (s : Session σ) :
    ∀ e ∈ episodes perform inputs s, P e := by
  induction inputs generalizing s with
  | nil => simp [episodes]
  | cons input rest ih =>
      intro e member
      rcases List.mem_cons.mp member with rfl | member
      · exact each input s
      · exact ih _ e member

end Activity

structure Occasion where
  env : Environment
  argv : List String
  stream : Stream

namespace Bootstrap

variable {σ ε : Type} {bootstrap : Bootstrap σ ε} {occasion : Occasion}

@[irreducible] def runOn (bootstrap : Bootstrap σ ε) (occasion : Occasion) :
    Activity σ Outcome := do
  return (← bootstrap.run occasion.env occasion.argv occasion.stream).1

@[simp] theorem runOn_outcome (s : Session σ) :
    (bootstrap.runOn occasion s).1 = (bootstrap.settle occasion.env occasion.argv s).1 := by
  simp [runOn, run_eq]

@[simp] theorem runOn_world (s : Session σ) :
    (bootstrap.runOn occasion s).2.world =
      (bootstrap.settle occasion.env occasion.argv s).2.world := by
  simp [runOn, run_eq]

@[simp] theorem runOn_panicsSeen (s : Session σ) :
    (bootstrap.runOn occasion s).2.panicsSeen =
      (bootstrap.settle occasion.env occasion.argv s).2.panicsSeen := by
  simp [runOn, run_eq]

theorem runOn_of_settle {s after : Session σ} {outcome : Outcome}
    (settled : bootstrap.settle occasion.env occasion.argv s = (outcome, after)) :
    (bootstrap.runOn occasion s).1 = outcome ∧
      (bootstrap.runOn occasion s).2.world = after.world := by
  rw [runOn_outcome, runOn_world, settled]
  exact ⟨rfl, rfl⟩

end Bootstrap

end SeccompBootstrap
