import SeccompBootstrap.Enforcement
import SeccompBootstrap.Proofs.Bootstrap

/-!
What a rehearsed bootstrap does, run by run. Whatever its script says and whatever runs came before,
a run loads once if no flag opts out and otherwise not at all, calls once if the load succeeded and
the parameters are read and otherwise not at all, and is protected exactly if that call returned.
Every other end is an outcome too, and no panic is seen.
-/

set_option autoImplicit false
set_option relaxedAutoImplicit false

namespace SeccompBootstrap

theorem Behaviour.run_perform_trouble {σ ε : Type} (trouble : Trouble ε) {s : Session σ}
    (quiet : s.quiet = true) :
    ((Behaviour.trouble trouble).perform : Action σ ε Unit).run s = (.error trouble, s) := by
  cases trouble with
  | failure error => rfl
  | panic payload => exact Action.run_panic_of_quiet payload quiet

namespace Script

variable {script : Script} {s : Session Record}

def counted (s : Session Record) : Session Record :=
  { s with world := { s.world with loads := s.world.loads + 1 } }

def recorded (call : RecordedCall) (s : Session Record) : Session Record :=
  { s with world := { s.world with calls := s.world.calls ++ [call] } }

theorem run_load_of_succeed (scripted : script.load s.world.loads = .succeed) :
    script.loader.load.run s = (.ok script.binding, counted s) := by
  simp [loader, Action.run_bind, Record.countLoad, scripted, Behaviour.perform, counted]

theorem run_load_of_trouble {trouble : Trouble LinkError}
    (scripted : script.load s.world.loads = .trouble trouble) (quiet : s.quiet = true) :
    script.loader.load.run s = (.error trouble, counted s) := by
  have performed := Behaviour.run_perform_trouble trouble (s := counted s) quiet
  simp only [counted] at performed
  simp [loader, Action.run_bind, Record.countLoad, scripted, performed, counted, Except.map]

theorem run_enforce_of_succeed (uid gid : UInt32) (enableNetwork : Bool)
    (scripted : script.call s.world.calls.length = .succeed) :
    (script.binding.enforce uid gid enableNetwork).run s =
      (.ok (), recorded ⟨uid, gid, enableNetwork⟩ s) := by
  simp [binding, Action.run_bind, Record.addCall, scripted, Behaviour.perform, recorded]

theorem run_enforce_of_trouble (uid gid : UInt32) (enableNetwork : Bool)
    {trouble : Trouble EnforcementError}
    (scripted : script.call s.world.calls.length = .trouble trouble) (quiet : s.quiet = true) :
    (script.binding.enforce uid gid enableNetwork).run s =
      (.error trouble, recorded ⟨uid, gid, enableNetwork⟩ s) := by
  have performed := Behaviour.run_perform_trouble trouble
    (s := recorded ⟨uid, gid, enableNetwork⟩ s) quiet
  simp only [recorded] at performed
  simp [binding, Action.run_bind, Record.addCall, scripted, performed, recorded]

theorem silent_perform {ε : Type} (behaviour : Behaviour ε) :
    (behaviour.perform : Action Record ε Unit).Silent := by
  cases behaviour with
  | succeed => exact Action.silent_pure ()
  | trouble trouble =>
      cases trouble with
      | failure error => exact Action.silent_fail error
      | panic payload => exact Action.silent_panic payload

theorem binding_of_load {s after : Session Record} {binding : Binding Record}
    (load : script.loader.load.run s = (.ok binding, after)) : binding = script.binding := by
  simp only [loader, Action.run_bind, Action.run_act] at load
  rcases performed : (script.load (Record.countLoad s.world).1).perform.run
    { s with world := (Record.countLoad s.world).2 } with ⟨trouble | _, counted⟩
  · rw [performed] at load
    cases load
  · rw [performed] at load
    cases load
    rfl

theorem silent_loader (script : Script) : script.loader.Silent where
  load := by
    refine Action.silent_bind (Action.silent_act _) fun number => ?_
    refine Action.silent_bind (silent_perform _) fun _ => ?_
    exact Action.silent_pure script.binding
  call := by
    intro s after binding load uid gid enableNetwork
    have obtained : binding = script.binding := binding_of_load load
    subst obtained
    exact Action.silent_bind (Action.silent_act _) fun number => silent_perform _

def bootstrap (script : Script) (config : Config) : Bootstrap Record LinkError :=
  { config, loader := script.loader }

end Script

def Occasion.Wanted (occasion : Occasion) (config : Config) : Prop :=
  occasion.env.get? config.disableVar ≠ some "true" ∧ occasion.env.get? skipVar ≠ some "true"

theorem Occasion.wanted_iff {occasion : Occasion} {config : Config} :
    occasion.Wanted config ↔ ActivationMode.resolve occasion.env config = .active := by
  rw [ActivationMode.resolve_eq_active_iff]
  simp [Occasion.Wanted, Environment.isTrue]

abbrev Rehearsal := Episode Record Occasion Outcome

namespace Rehearsal

/-- Whether a run gets as far as a call with certain parameters. -/
structure Calls (script : Script) (config : Config) (e : Rehearsal) (p : Parameters) : Prop where
  wanted : e.input.Wanted config
  loaded : script.load e.before.world.loads = .succeed
  read : Parameters.ofArguments e.input.argv = .ok p

/-- The ways in which a run ends, each with all that it does. -/
inductive Ending (script : Script) (config : Config) (e : Rehearsal) : Prop
  | skipped (unwanted : ¬ e.input.Wanted config)
      (outcome : e.result = .disabled config.disableVar ∨ e.result = .debugSkip skipVar)
      (world : e.after.world = e.before.world)
  | unloaded (trouble : Trouble LinkError) (wanted : e.input.Wanted config)
      (load : script.load e.before.world.loads = .trouble trouble)
      (outcome : e.result = .loadFailure (trouble.detail LinkError.message))
      (world : e.after.world = { e.before.world with loads := e.before.world.loads + 1 })
  | unread (error : ParameterError) (wanted : e.input.Wanted config)
      (load : script.load e.before.world.loads = .succeed)
      (unread : Parameters.ofArguments e.input.argv = .error error)
      (outcome : e.result =
        .initFailure ((Trouble.failure (InitError.parameters error)).detail InitError.message))
      (world : e.after.world = { e.before.world with loads := e.before.world.loads + 1 })
  | faulted (p : Parameters) (trouble : Trouble EnforcementError) (calls : Calls script config e p)
      (call : script.call e.before.world.calls.length = .trouble trouble)
      (outcome : e.result =
        .initFailure ((trouble.map InitError.enforcement).detail InitError.message))
      (world : e.after.world =
        { loads := e.before.world.loads + 1
          calls := e.before.world.calls ++ [⟨p.uid, p.gid, p.capabilities.enableNetwork⟩] })
  | enforced (p : Parameters) (calls : Calls script config e p)
      (call : script.call e.before.world.calls.length = .succeed)
      (outcome : e.result = .enforced p)
      (world : e.after.world =
        { loads := e.before.world.loads + 1
          calls := e.before.world.calls ++ [⟨p.uid, p.gid, p.capabilities.enableNetwork⟩] })

variable {script : Script} {config : Config}

private theorem ending_of_unwanted {occasion : Occasion} (unwanted : ¬ occasion.Wanted config)
    (s : Session Record) :
    Ending script config (Activity.episode (script.bootstrap config).runOn occasion s) := by
  cases flag : occasion.env.isTrue config.disableVar with
  | true =>
      have settled :=
        Bootstrap.settle_of_disabled (script.bootstrap config) occasion.env occasion.argv flag s
      obtain ⟨outcome, world⟩ := Bootstrap.runOn_of_settle settled
      exact .skipped unwanted (.inl outcome) world
  | false =>
      have skip : occasion.env.isTrue skipVar = true := by
        simp_all [Occasion.Wanted, Environment.isTrue]
      have settled :=
        Bootstrap.settle_of_skipped (script.bootstrap config) occasion.env occasion.argv flag skip s
      obtain ⟨outcome, world⟩ := Bootstrap.runOn_of_settle settled
      exact .skipped unwanted (.inr outcome) world

private theorem ending_of_wanted {occasion : Occasion} (wanted : occasion.Wanted config)
    (s : Session Record) :
    Ending script config (Activity.episode (script.bootstrap config).runOn occasion s) := by
  let b := script.bootstrap config
  let start : Session Record := { b.resolved occasion.env s with quiet := true }
  have active := b.settle_of_active occasion.env occasion.argv (Occasion.wanted_iff.mp wanted) s
  cases load : script.load s.world.loads with
  | trouble trouble =>
      have loaded := Script.run_load_of_trouble (s := start) load rfl
      have attempted := b.attempt_of_load_trouble occasion.argv loaded
      obtain ⟨outcome, world⟩ := Bootstrap.runOn_of_settle (active.trans attempted)
      exact .unloaded trouble wanted load outcome world
  | succeed =>
      have loaded := Script.run_load_of_succeed (s := start) load
      cases read : Parameters.ofArguments occasion.argv with
      | error error =>
          have stopped :=
            Bootstrap.run_enforceOnce_of_unread script.binding read (Script.counted start)
          have attempted := b.attempt_of_call_trouble occasion.argv loaded stopped
          obtain ⟨outcome, world⟩ := Bootstrap.runOn_of_settle (active.trans attempted)
          exact .unread error wanted load read outcome world
      | ok p =>
          have calls : Calls script config (Activity.episode b.runOn occasion s) p :=
            ⟨wanted, load, read⟩
          let ready : Session Record := { Script.counted start with
            trace := (Script.counted start).trace ++ [.parametersParsed p] }
          cases call : script.call s.world.calls.length with
          | trouble trouble =>
              have called := Script.run_enforce_of_trouble (s := ready) p.uid p.gid
                p.capabilities.enableNetwork call rfl
              have stopped := Bootstrap.run_enforceOnce_of_call_trouble script.binding read called
              have attempted := b.attempt_of_call_trouble occasion.argv loaded stopped
              obtain ⟨outcome, world⟩ := Bootstrap.runOn_of_settle (active.trans attempted)
              exact .faulted p trouble calls call outcome world
          | succeed =>
              have called := Script.run_enforce_of_succeed (s := ready) p.uid p.gid
                p.capabilities.enableNetwork call
              have enforced := Bootstrap.run_enforceOnce_of_call script.binding read called
              have attempted := b.attempt_of_call occasion.argv loaded enforced
              obtain ⟨outcome, world⟩ := Bootstrap.runOn_of_settle (active.trans attempted)
              exact .enforced p calls call outcome world

theorem ending (script : Script) (config : Config) (occasion : Occasion) (s : Session Record) :
    Ending script config (Activity.episode (script.bootstrap config).runOn occasion s) := by
  by_cases wanted : occasion.Wanted config
  · exact ending_of_wanted wanted s
  · exact ending_of_unwanted wanted s

/-- What a run may do and what it may report, given what its script says: at most one load, at most
one call with the parameters of its argument vector, and success only after a call that returned. -/
structure FailOpen (script : Script) (config : Config) (e : Rehearsal) : Prop where
  loads_of_wanted : e.input.Wanted config → e.after.world.loads = e.before.world.loads + 1
  loads_of_unwanted : ¬ e.input.Wanted config → e.after.world.loads = e.before.world.loads
  calls_of_call : ∀ p, Calls script config e p →
    e.after.world.calls =
      e.before.world.calls ++ [⟨p.uid, p.gid, p.capabilities.enableNetwork⟩]
  calls_of_no_call : (¬ ∃ p, Calls script config e p) →
    e.after.world.calls = e.before.world.calls
  enforced_iff : ∀ p, e.result = .enforced p ↔
    Calls script config e p ∧ script.call e.before.world.calls.length = .succeed
  protected_iff : e.result.isProtected = true ↔
    ∃ p, Calls script config e p ∧ script.call e.before.world.calls.length = .succeed
  skipped_of_unwanted : ¬ e.input.Wanted config →
    e.result = .disabled config.disableVar ∨ e.result = .debugSkip skipVar
  outcome_of_load_fault : e.input.Wanted config → ∀ trouble : Trouble LinkError,
    script.load e.before.world.loads = .trouble trouble →
    e.result = .loadFailure (trouble.detail LinkError.message)
  outcome_of_parse_fault : e.input.Wanted config →
    script.load e.before.world.loads = .succeed → ∀ error : ParameterError,
    Parameters.ofArguments e.input.argv = .error error →
    e.result = .initFailure ((Trouble.failure (.parameters error)).detail InitError.message)
  outcome_of_call_fault : ∀ p, Calls script config e p → ∀ trouble : Trouble EnforcementError,
    script.call e.before.world.calls.length = .trouble trouble →
    e.result = .initFailure ((trouble.map .enforcement).detail InitError.message)
  unseen : e.after.panicsSeen = e.before.panicsSeen

private theorem Calls.unique {e : Rehearsal} {p q : Parameters} (first : Calls script config e p)
    (second : Calls script config e q) : p = q := by
  have same := first.read.symm.trans second.read
  exact Except.ok.inj same

private theorem failOpen_of_no_call {e : Rehearsal} (silent : ∀ p, ¬ Calls script config e p)
    (uncalled : e.after.world.calls = e.before.world.calls)
    (unprotected : e.result.isProtected = false)
    (loads_of_wanted : e.input.Wanted config →
      e.after.world.loads = e.before.world.loads + 1)
    (loads_of_unwanted : ¬ e.input.Wanted config → e.after.world.loads = e.before.world.loads)
    (skipped_of_unwanted : ¬ e.input.Wanted config →
      e.result = .disabled config.disableVar ∨ e.result = .debugSkip skipVar)
    (outcome_of_load_fault : e.input.Wanted config → ∀ trouble : Trouble LinkError,
      script.load e.before.world.loads = .trouble trouble →
      e.result = .loadFailure (trouble.detail LinkError.message))
    (outcome_of_parse_fault : e.input.Wanted config →
      script.load e.before.world.loads = .succeed → ∀ error : ParameterError,
      Parameters.ofArguments e.input.argv = .error error →
      e.result = .initFailure ((Trouble.failure (.parameters error)).detail InitError.message))
    (unseen : e.after.panicsSeen = e.before.panicsSeen) : FailOpen script config e where
  loads_of_wanted := loads_of_wanted
  loads_of_unwanted := loads_of_unwanted
  calls_of_call p calls := absurd calls (silent p)
  calls_of_no_call _ := uncalled
  enforced_iff p := by
    constructor
    · intro enforced
      simp [enforced, Outcome.isProtected] at unprotected
    · intro called
      exact absurd called.1 (silent p)
  protected_iff := by simp [unprotected, silent]
  skipped_of_unwanted := skipped_of_unwanted
  outcome_of_load_fault := outcome_of_load_fault
  outcome_of_parse_fault := outcome_of_parse_fault
  outcome_of_call_fault p calls := absurd calls (silent p)
  unseen := unseen

private theorem failOpen_of_call {e : Rehearsal} {p : Parameters}
    (calls : Calls script config e p)
    (world : e.after.world =
      { loads := e.before.world.loads + 1
        calls := e.before.world.calls ++ [⟨p.uid, p.gid, p.capabilities.enableNetwork⟩] })
    (enforced_iff : ∀ q, e.result = .enforced q ↔
      p = q ∧ script.call e.before.world.calls.length = .succeed)
    (protected_iff : e.result.isProtected = true ↔
      script.call e.before.world.calls.length = .succeed)
    (outcome_of_call_fault : ∀ trouble : Trouble EnforcementError,
      script.call e.before.world.calls.length = .trouble trouble →
      e.result = .initFailure ((trouble.map .enforcement).detail InitError.message))
    (unseen : e.after.panicsSeen = e.before.panicsSeen) : FailOpen script config e where
  loads_of_wanted _ := by rw [world]
  loads_of_unwanted unwanted := absurd calls.wanted unwanted
  calls_of_call q others := by rw [world, others.unique calls]
  calls_of_no_call none := absurd ⟨p, calls⟩ none
  enforced_iff q := by
    rw [enforced_iff]
    constructor
    · rintro ⟨rfl, call⟩
      exact ⟨calls, call⟩
    · rintro ⟨others, call⟩
      exact ⟨calls.unique others, call⟩
  protected_iff := by
    rw [protected_iff]
    constructor
    · intro call
      exact ⟨p, calls, call⟩
    · rintro ⟨_, _, call⟩
      exact call
  skipped_of_unwanted unwanted := absurd calls.wanted unwanted
  outcome_of_load_fault _ trouble fault := by simp [calls.loaded] at fault
  outcome_of_parse_fault _ _ error unread := by simp [calls.read] at unread
  outcome_of_call_fault _ _ := outcome_of_call_fault
  unseen := unseen

theorem Ending.failOpen {e : Rehearsal} (ending : Ending script config e)
    (unseen : e.after.panicsSeen = e.before.panicsSeen) : FailOpen script config e := by
  cases ending with
  | skipped unwanted outcome world =>
      refine failOpen_of_no_call (fun p calls => unwanted calls.wanted) (by rw [world]) ?_ ?_
        (fun _ => by rw [world]) (fun _ => outcome) ?_ ?_ unseen
      · rcases outcome with outcome | outcome <;> rw [outcome] <;> rfl
      · intro wanted
        exact absurd wanted unwanted
      · intro wanted
        exact absurd wanted unwanted
      · intro wanted
        exact absurd wanted unwanted
  | unloaded trouble wanted load outcome world =>
      refine failOpen_of_no_call ?_ (by rw [world]) (by rw [outcome]; rfl)
        (fun _ => by rw [world]) (fun unwanted => absurd wanted unwanted)
        (fun unwanted => absurd wanted unwanted) ?_ ?_ unseen
      · intro p calls
        have loaded := calls.loaded
        simp [load] at loaded
      · intro _ other same
        rw [load] at same
        cases same
        exact outcome
      · -- a load fault decides before the arguments are read
        intro _ loaded
        simp [load] at loaded
  | unread error wanted load unread outcome world =>
      refine failOpen_of_no_call ?_ (by rw [world]) (by rw [outcome]; rfl)
        (fun _ => by rw [world]) (fun unwanted => absurd wanted unwanted)
        (fun unwanted => absurd wanted unwanted) ?_ ?_ unseen
      · intro p calls
        have read := calls.read
        simp [unread] at read
      · intro _ trouble fault
        simp [load] at fault
      · intro _ _ other same
        rw [unread] at same
        cases same
        exact outcome
  | faulted p trouble calls call outcome world =>
      refine failOpen_of_call calls world ?_ ?_ ?_ unseen
      · intro q
        simp [outcome, call]
      · simp [outcome, Outcome.isProtected, call]
      · intro other same
        rw [call] at same
        cases same
        exact outcome
  | enforced p calls call outcome world =>
      refine failOpen_of_call calls world ?_ ?_ ?_ unseen
      · intro q
        simp [outcome, call]
      · simp [outcome, Outcome.isProtected, call]
      · intro trouble fault
        simp [call] at fault

/-- One run is fail-open, whatever was loaded and called before it. -/
theorem failOpen_episode (script : Script) (config : Config) (occasion : Occasion)
    (s : Session Record) :
    FailOpen script config (Activity.episode (script.bootstrap config).runOn occasion s) := by
  refine (ending script config occasion s).failOpen ?_
  have kept := (script.bootstrap config).panicsSeen_settle occasion.env occasion.argv
    script.silent_loader s
  exact (Bootstrap.runOn_panicsSeen s).trans kept

end Rehearsal

/-- Every run of a sequence is fail-open, each takes place, and no panic of the whole sequence is
seen. -/
theorem every_run_failOpen (script : Script) (config : Config) (occasions : List Occasion)
    (s : Session Record) :
    let runs := Activity.episodes (script.bootstrap config).runOn occasions s
    runs.map Episode.input = occasions ∧
      (∀ e ∈ runs, Rehearsal.FailOpen script config e) ∧
      (Activity.sessionAfter (script.bootstrap config).runOn occasions s).panicsSeen =
        s.panicsSeen := by
  refine ⟨Activity.map_input_episodes _ occasions s, ?_, ?_⟩
  · exact Activity.forall_mem_episodes _ (Rehearsal.failOpen_episode script config) occasions s
  · have kept (occasion : Occasion) (t : Session Record) (seen : t.panicsSeen = s.panicsSeen) :
        ((script.bootstrap config).runOn occasion t).2.panicsSeen = s.panicsSeen :=
      (Rehearsal.failOpen_episode script config occasion t).unseen.trans seen
    exact (Activity.invariant_along _ (fun t => t.panicsSeen = s.panicsSeen) kept occasions rfl).2

end SeccompBootstrap
