import Mathlib.Data.List.Forall2
import SeccompBootstrap.Proofs.Environment
import SeccompBootstrap.Proofs.FailOpen

/-!
What a run depends on. A step is blind to the record of a session if equal worlds give equal results
and equal worlds, whatever was emitted or seen before. A blind loader makes a blind bootstrap, and
of its occasion such a run reads two flags and three arguments; of a run that is skipped or whose
load ends in a trouble it does not read even those arguments. Two sequences that agree on what is
read therefore have the same outcomes, loads and calls, on whatever streams they report.
-/

set_option autoImplicit false
set_option relaxedAutoImplicit false

namespace SeccompBootstrap

variable {σ ε δ α β : Type}

/-- Whether an activity depends on the world of its session alone. -/
def Activity.Blind (activity : Activity σ α) : Prop :=
  ∀ s t : Session σ, s.world = t.world →
    (activity s).1 = (activity t).1 ∧ (activity s).2.world = (activity t).2.world

namespace Activity

theorem blind_pure (value : α) : Blind (pure value : Activity σ α) :=
  fun _ _ same => ⟨rfl, same⟩

theorem blind_emit (event : Event) : Blind (emit event : Activity σ Unit) :=
  fun _ _ same => ⟨rfl, same⟩

/-- What follows an activity needs to be blind only for the results that the activity can have. -/
theorem blind_bind {step : Activity σ α} {next : α → Activity σ β} (first : Blind step)
    (rest : ∀ s, Blind (next (step s).1)) : Blind (step >>= next) := by
  intro s t same
  obtain ⟨result, world⟩ := first s t same
  rw [bind_apply, bind_apply, result]
  exact rest t _ _ world

end Activity

def Action.Blind (step : Action σ ε α) : Prop :=
  Activity.Blind step.run

namespace Action

theorem blind_pure (value : α) : Blind (pure value : Action σ ε α) :=
  fun _ _ same => ⟨rfl, same⟩

theorem blind_emit (event : Event) : Blind (emit event : Action σ ε Unit) :=
  fun _ _ same => ⟨rfl, same⟩

theorem blind_act (change : σ → α × σ) : Blind (act change : Action σ ε α) := by
  intro s t same
  rw [run_act, run_act, same]
  exact ⟨rfl, rfl⟩

theorem blind_fail (error : ε) : Blind (fail error : Action σ ε α) :=
  fun _ _ same => ⟨rfl, same⟩

theorem blind_panic (payload : Payload) : Blind (panic payload : Action σ ε α) := by
  have kept (s : Session σ) : ((panic payload : Action σ ε α).run s).2.world = s.world := by
    change (if s.quiet then s else { s with panicsSeen := s.panicsSeen + 1 }).world = s.world
    split <;> rfl
  intro s t same
  refine ⟨rfl, ?_⟩
  rw [kept, kept, same]

theorem blind_ofExcept (result : Except ε α) : Blind (ofExcept result : Action σ ε α) := by
  cases result with
  | ok value => exact blind_pure value
  | error error => exact blind_fail error

theorem blind_mapError (f : ε → δ) {step : Action σ ε α} (blind : Blind step) :
    Blind (mapError f step) := by
  intro s t same
  obtain ⟨result, world⟩ := blind s t same
  have translated (r : Session σ) : (mapError f step).run r =
      ((step.run r).1.mapError (Trouble.map f), (step.run r).2) := rfl
  rw [translated, translated, result]
  exact ⟨rfl, world⟩

theorem blind_bind {step : Action σ ε α} {next : α → Action σ ε β} (first : Blind step)
    (rest : ∀ value, Blind (next value)) : Blind (step >>= next) := by
  intro s t same
  obtain ⟨result, world⟩ := first s t same
  rw [run_bind, run_bind]
  rcases left : step.run s with ⟨trouble | value, s'⟩
  · rcases right : step.run t with ⟨trouble' | value', t'⟩ <;> rw [left, right] at result world
    · cases result
      exact ⟨rfl, world⟩
    · cases result
  · rcases right : step.run t with ⟨trouble' | value', t'⟩ <;> rw [left, right] at result world
    · cases result
    · cases result
      exact rest value s' t' world

end Action

theorem blind_absorb (describe : ε → String) (degrade : String → Outcome) {step : Action σ ε α}
    (blind : step.Blind) : (absorb describe degrade step).Blind := by
  intro s t same
  obtain ⟨result, world⟩ := blind { s with quiet := true } { t with quiet := true } same
  rw [absorb_apply, absorb_apply, result]
  exact ⟨rfl, world⟩

structure Loader.Blind (loader : Loader σ ε) : Prop where
  load : loader.load.Blind
  call : ∀ (s after : Session σ) (binding : Binding σ), loader.load.run s = (.ok binding, after) →
    ∀ uid gid enableNetwork, (binding.enforce uid gid enableNetwork).Blind

theorem Parameters.ofArguments_congr {argv other : List String}
    (uid : argv[2]? = other[2]?) (gid : argv[3]? = other[3]?)
    (capabilities : argv[4]? = other[4]?) : ofArguments argv = ofArguments other := by
  simp only [ofArguments, idAt, capabilitiesAt, argument, uidPosition, gidPosition,
    capabilitiesPosition, uid, gid, capabilities]

namespace Bootstrap

theorem blind_enforceOnce {binding : Binding σ} (argv : List String)
    (blind : ∀ uid gid enableNetwork, (binding.enforce uid gid enableNetwork).Blind) :
    (enforceOnce binding argv).Blind := by
  refine Action.blind_bind (Action.blind_mapError _ (Action.blind_ofExcept _)) fun p => ?_
  refine Action.blind_bind (Action.blind_emit _) fun _ => ?_
  refine Action.blind_bind (Action.blind_mapError _ (blind _ _ _)) fun _ => ?_
  exact Action.blind_pure p

variable (bootstrap : Bootstrap σ ε) {env other : Environment} {argv argv' : List String}

theorem blind_attempt (argv : List String) (blind : bootstrap.loader.Blind) :
    (bootstrap.attempt argv).Blind := by
  refine Activity.blind_bind (blind_absorb _ _ blind.load) fun s => ?_
  rw [absorb_apply]
  rcases load : bootstrap.loader.load.run { s with quiet := true } with
    ⟨trouble | binding, loaded⟩
  · exact Activity.blind_pure _
  · have call := blind_enforceOnce argv (blind.call _ _ _ load)
    refine Activity.blind_bind (blind_absorb _ _ call) fun t => ?_
    rw [absorb_apply]
    rcases (enforceOnce binding argv).run { t with quiet := true } with ⟨trouble | p, called⟩
    · exact Activity.blind_pure _
    · exact Activity.blind_pure _

theorem blind_settle (env : Environment) (argv : List String) (blind : bootstrap.loader.Blind) :
    (bootstrap.settle env argv).Blind := by
  refine Activity.blind_bind (Activity.blind_emit _) fun _ => ?_
  cases ActivationMode.resolve env bootstrap.config with
  | disabled => exact Activity.blind_pure _
  | debugSkip => exact Activity.blind_pure _
  | active => exact bootstrap.blind_attempt argv blind

theorem settle_congr
    (mode : ActivationMode.resolve env bootstrap.config =
      ActivationMode.resolve other bootstrap.config)
    (read : Parameters.ofArguments argv = Parameters.ofArguments argv') :
    bootstrap.settle env argv = bootstrap.settle other argv' := by
  simp only [settle, attempt, enforceOnce, mode, read]

theorem settle_of_inactive (inactive : ActivationMode.resolve env bootstrap.config ≠ .active)
    (argv argv' : List String) : bootstrap.settle env argv = bootstrap.settle env argv' := by
  cases mode : ActivationMode.resolve env bootstrap.config with
  | disabled => simp only [settle, mode]
  | debugSkip => simp only [settle, mode]
  | active => exact absurd mode inactive

theorem settle_of_load_trouble {trouble : Trouble ε} {s loaded : Session σ}
    (active : ActivationMode.resolve env bootstrap.config = .active)
    (load : bootstrap.loader.load.run { bootstrap.resolved env s with quiet := true } =
      (.error trouble, loaded)) (argv argv' : List String) :
    bootstrap.settle env argv s = bootstrap.settle env argv' s := by
  rw [settle_of_active bootstrap env argv active, settle_of_active bootstrap env argv' active,
    attempt_of_load_trouble bootstrap argv load, attempt_of_load_trouble bootstrap argv' load]

end Bootstrap

namespace Script

theorem blind_perform (behaviour : Behaviour ε) :
    (behaviour.perform : Action σ ε Unit).Blind := by
  cases behaviour with
  | succeed => exact Action.blind_pure ()
  | trouble trouble =>
      cases trouble with
      | failure error => exact Action.blind_fail error
      | panic payload => exact Action.blind_panic payload

theorem blind_loader (script : Script) : script.loader.Blind where
  load := by
    refine Action.blind_bind (Action.blind_act _) fun number => ?_
    refine Action.blind_bind (blind_perform _) fun _ => ?_
    exact Action.blind_pure script.binding
  call := by
    intro s after binding load uid gid enableNetwork
    have obtained : binding = script.binding := binding_of_load load
    subst obtained
    exact Action.blind_bind (Action.blind_act _) fun number => blind_perform _

end Script

/-- Whether two occasions agree on what a run reads: the two flags and the three arguments. -/
structure Occasion.Agrees (config : Config) (first second : Occasion) : Prop where
  disabled : first.env.get? config.disableVar = some "true" ↔
    second.env.get? config.disableVar = some "true"
  skipped : first.env.get? skipVar = some "true" ↔ second.env.get? skipVar = some "true"
  uid : first.argv[2]? = second.argv[2]?
  gid : first.argv[3]? = second.argv[3]?
  capabilities : first.argv[4]? = second.argv[4]?

namespace Occasion

variable {config : Config} {first second : Occasion}

theorem Agrees.resolve_eq (agrees : Agrees config first second) :
    ActivationMode.resolve first.env config = ActivationMode.resolve second.env config := by
  rw [ActivationMode.resolve, ActivationMode.resolve, Environment.isTrue_congr agrees.disabled,
    Environment.isTrue_congr agrees.skipped]

theorem Agrees.ofArguments_eq (agrees : Agrees config first second) :
    Parameters.ofArguments first.argv = Parameters.ofArguments second.argv :=
  Parameters.ofArguments_congr agrees.uid agrees.gid agrees.capabilities

end Occasion

namespace Rehearsal

/-- Whether two runs have the same outcome and leave the same record of loads and calls. -/
structure Matches (e other : Rehearsal) : Prop where
  outcome : e.result = other.result
  record : e.after.world = other.after.world

variable {script : Script} {config : Config} {s t : Session Record}

theorem matches_of_settle (first second : Occasion)
    (settled : (script.bootstrap config).settle first.env first.argv s =
      (script.bootstrap config).settle second.env second.argv s)
    (same : s.world = t.world) :
    Matches (Activity.episode (script.bootstrap config).runOn first s)
      (Activity.episode (script.bootstrap config).runOn second t) := by
  have blind := (script.bootstrap config).blind_settle second.env second.argv script.blind_loader
  obtain ⟨result, world⟩ := blind s t same
  constructor
  · show ((script.bootstrap config).runOn first s).1 = ((script.bootstrap config).runOn second t).1
    rw [Bootstrap.runOn_outcome, Bootstrap.runOn_outcome, settled]
    exact result
  · show ((script.bootstrap config).runOn first s).2.world =
      ((script.bootstrap config).runOn second t).2.world
    rw [Bootstrap.runOn_world, Bootstrap.runOn_world, settled]
    exact world

theorem matches_of_agrees (script : Script) {first second : Occasion}
    (agrees : Occasion.Agrees config first second) (same : s.world = t.world) :
    Matches (Activity.episode (script.bootstrap config).runOn first s)
      (Activity.episode (script.bootstrap config).runOn second t) := by
  have settled :=
    (script.bootstrap config).settle_congr agrees.resolve_eq agrees.ofArguments_eq
  exact matches_of_settle first second (congrFun settled s) same

theorem forall₂_matches {first second : List Occasion}
    (agrees : List.Forall₂ (Occasion.Agrees config) first second) (same : s.world = t.world) :
    List.Forall₂ Matches (Activity.episodes (script.bootstrap config).runOn first s)
      (Activity.episodes (script.bootstrap config).runOn second t) := by
  -- the worlds that one pair of runs leaves are those in which the next pair starts
  induction agrees generalizing s t with
  | nil => exact .nil
  | cons here _ ih =>
      have matched := matches_of_agrees script here same
      exact .cons matched (ih matched.record)

theorem matches_of_unread {occasion : Occasion} (argv : List String) (stream : Stream)
    (unread : ¬ occasion.Wanted config ∨
      ∃ trouble, script.load s.world.loads = .trouble trouble) (same : s.world = t.world) :
    Matches (Activity.episode (script.bootstrap config).runOn occasion s)
      (Activity.episode (script.bootstrap config).runOn { occasion with argv, stream } t) := by
  have settled : (script.bootstrap config).settle occasion.env occasion.argv s =
      (script.bootstrap config).settle occasion.env argv s := by
    by_cases wanted : occasion.Wanted config
    · obtain ⟨trouble, load⟩ := unread.resolve_left (not_not_intro wanted)
      let start : Session Record :=
        { (script.bootstrap config).resolved occasion.env s with quiet := true }
      have loaded := Script.run_load_of_trouble (s := start) load rfl
      have active := Occasion.wanted_iff.mp wanted
      exact (script.bootstrap config).settle_of_load_trouble active loaded occasion.argv argv
    · have inactive : ActivationMode.resolve occasion.env config ≠ .active :=
        mt Occasion.wanted_iff.mpr wanted
      exact congrFun ((script.bootstrap config).settle_of_inactive inactive occasion.argv argv) s
  exact matches_of_settle occasion { occasion with argv, stream } settled same

end Rehearsal

/-- Two sequences of runs that agree on what is read match run by run: no other variable, no other
argument and no stream has a part in outcomes, loads or calls. The arguments of a run that is
skipped, or whose load ends in a trouble, have none at all. -/
theorem runs_depend_on_what_is_read (script : Script) (config : Config) :
    (∀ (first second : List Occasion) (s t : Session Record), s.world = t.world →
      List.Forall₂ (Occasion.Agrees config) first second →
      List.Forall₂ Rehearsal.Matches
        (Activity.episodes (script.bootstrap config).runOn first s)
        (Activity.episodes (script.bootstrap config).runOn second t)) ∧
    ∀ (occasion : Occasion) (argv : List String) (stream : Stream) (s t : Session Record),
      s.world = t.world →
      (¬ occasion.Wanted config ∨ ∃ trouble, script.load s.world.loads = .trouble trouble) →
      Rehearsal.Matches (Activity.episode (script.bootstrap config).runOn occasion s)
        (Activity.episode (script.bootstrap config).runOn { occasion with argv, stream } t) := by
  constructor
  · intro first second s t same agrees
    exact Rehearsal.forall₂_matches agrees same
  · intro occasion argv stream s t same unread
    exact Rehearsal.matches_of_unread argv stream unread same

theorem runs_depend_on_what_is_read_with_noise :
    let bootstrap := Script.succeeding.bootstrap .default
    let quietly : Occasion :=
      ⟨.empty, ["gatehouse", "/bin/true", "1000", "100", "{}"], .fresh .unbounded⟩
    let noisily : Occasion :=
      ⟨⟨[("PATH", "/bin"), (skipVar, "yes")]⟩, ["", "", "1000", "100", "{}", "--"],
        .fresh { StreamLimits.unbounded with failAt := some 0 }⟩
    Occasion.Agrees .default quietly noisily ∧
      List.Forall₂ Rehearsal.Matches
        (Activity.episodes bootstrap.runOn [quietly, quietly] (.start .empty))
        (Activity.episodes bootstrap.runOn [noisily, noisily] (.start .empty)) := by
  intro bootstrap quietly noisily
  have agrees : Occasion.Agrees .default quietly noisily :=
    ⟨by decide, by decide, rfl, rfl, rfl⟩
  have pairs : List.Forall₂ (Occasion.Agrees .default) [quietly, quietly] [noisily, noisily] :=
    .cons agrees (.cons agrees .nil)
  exact ⟨agrees, (runs_depend_on_what_is_read .succeeding .default).1 _ _ _ _ rfl pairs⟩

end SeccompBootstrap
