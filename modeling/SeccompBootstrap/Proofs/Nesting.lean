import SeccompBootstrap.Proofs.Session
import SeccompBootstrap.StepTree

/-!
Steps guarded inside guarded steps. What a tree of steps comes to, and which panics it raises with
how many boundaries around each, is told from the tree alone. A run of the tree comes to the same in
every session. The panic handler sees of it the panics with no boundary around them, and none at all
if the session was quiet before; a guarded step leaves the session as it was.
-/

set_option autoImplicit false
set_option relaxedAutoImplicit false

namespace SeccompBootstrap

namespace Session

variable {σ : Type}

/-- The session after the panic handler was called so many times, which a quiet session prevents. -/
def showing (s : Session σ) (panics : Nat) : Session σ :=
  { s with panicsSeen := s.panicsSeen + if s.quiet then 0 else panics }

@[simp] theorem showing_zero (s : Session σ) : s.showing 0 = s := by
  simp only [showing, ite_self, Nat.add_zero]

theorem showing_of_quiet {s : Session σ} (quiet : s.quiet = true) (panics : Nat) :
    s.showing panics = s := by
  rw [showing, if_pos quiet, Nat.add_zero]

theorem showing_showing (s : Session σ) (first second : Nat) :
    (s.showing first).showing second = s.showing (first + second) := by
  cases quiet : s.quiet with
  | false => simp only [showing, quiet, Bool.false_eq_true, if_false, Nat.add_assoc]
  | true => simp only [showing, quiet, if_true, Nat.add_zero]

end Session

theorem Action.run_panic {σ ε α : Type} (payload : Payload) (s : Session σ) :
    (Action.panic payload : Action σ ε α).run s = (.error (.panic payload), s.showing 1) := by
  cases quiet : s.quiet with
  | false =>
      have seen : (Action.panic payload : Action σ ε α).run s = (.error (.panic payload),
          if s.quiet then s else { s with panicsSeen := s.panicsSeen + 1 }) := rfl
      rw [seen]
      simp only [Session.showing, quiet, Bool.false_eq_true, if_false]
  | true => rw [Action.run_panic_of_quiet payload quiet, Session.showing_of_quiet quiet]

theorem Action.run_map {σ ε α β : Type} (f : α → β) (step : Action σ ε α) (s : Session σ) :
    (do return f (← step) : Action σ ε β).run s = ((step.run s).1.map f, (step.run s).2) := by
  rw [Action.run_bind]
  rcases step.run s with ⟨_ | value, after⟩ <;> rfl

namespace Flow

variable {ε α : Type}

theorem ofResult_eq_proceed_iff (describe : ε → String) (degrade : String → Outcome)
    (result : Except (Trouble ε) α) (value : α) :
    ofResult describe degrade result = .proceed value ↔ result = .ok value := by
  cases result <;> simp [ofResult]

theorem ofResult_eq_stop_iff (describe : ε → String) (degrade : String → Outcome)
    (result : Except (Trouble ε) α) (outcome : Outcome) :
    ofResult describe degrade result = .stop outcome ↔
      ∃ trouble, result = .error trouble ∧ outcome = degrade (trouble.detail describe) := by
  cases result <;> simp [ofResult, eq_comm]

end Flow

/-- A panic that a step raises, with the number of boundaries that the step itself has around it. -/
structure Raise where
  boundaries : Nat
  payload : Payload
  deriving DecidableEq

namespace Raise

def guarded (raise : Raise) : Raise :=
  { raise with boundaries := raise.boundaries + 1 }

def bare (raise : Raise) : Bool :=
  raise.boundaries == 0

@[simp] theorem countP_bare_guarded (raises : List Raise) :
    (raises.map guarded).countP bare = 0 := by
  rw [List.countP_map, List.countP_eq_zero]
  intro raise _
  simp [bare, guarded]

end Raise

def panicked {ε α : Type} : Except (Trouble ε) α → Bool
  | .error (.panic _) => true
  | _ => false

theorem panicked_map {ε α β : Type} (f : α → β) (result : Except (Trouble ε) α) :
    panicked (result.map f) = panicked result := by
  rcases result with (_ | _) | _ <;> rfl

namespace StepTree

variable {ν : Type}

/-- What a step comes to: a guarded one always to a yield, and an error or a panic at its end to
whatever its phase degrades to. -/
def result : StepTree ν → Except (Trouble String) (Yield ν)
  | .value v => .ok (.value v)
  | .failure message => .error (.failure message)
  | .panic payload => .error (.panic payload)
  | .guarded phase inner =>
      match inner.result with
      | .ok yield => .ok (.proceeded yield)
      | .error trouble => .ok (.stopped (phase.degrade (trouble.detail id)))
  | .guardedThen phase inner next =>
      match inner.result with
      | .ok yield => next.result.map (.proceededThen yield)
      | .error trouble => next.result.map (.stoppedThen (phase.degrade (trouble.detail id)))

def panics : StepTree ν → List Raise
  | .value _ | .failure _ => []
  | .panic payload => [{ boundaries := 0, payload }]
  | .guarded _ inner => inner.panics.map Raise.guarded
  | .guardedThen _ inner next => inner.panics.map Raise.guarded ++ next.panics

theorem result_guarded (phase : Phase) (inner : StepTree ν) :
    (guarded phase inner).result = .ok (.ofFlow (.ofResult id phase.degrade inner.result)) := by
  cases came : inner.result <;> simp only [result, came, Flow.ofResult, Yield.ofFlow]

theorem result_guardedThen (phase : Phase) (inner next : StepTree ν) :
    (guardedThen phase inner next).result =
      next.result.map (.ofFlowThen (.ofResult id phase.degrade inner.result)) := by
  cases came : inner.result <;> simp only [result, came, Flow.ofResult] <;> rfl

theorem countP_bare_panics (step : StepTree ν) :
    step.panics.countP Raise.bare = if panicked step.result then 1 else 0 := by
  induction step with
  | value v => rfl
  | failure message => rfl
  | panic payload => rfl
  | guarded phase inner ih =>
      rw [panics, Raise.countP_bare_guarded, result_guarded]
      rfl
  | guardedThen phase inner next ihInner ihNext =>
      rw [panics, List.countP_append, Raise.countP_bare_guarded, Nat.zero_add, ihNext,
        result_guardedThen, panicked_map]

theorem absorb_eq_of_run {step : StepTree ν} (degrade : String → Outcome) (s : Session Unit)
    (ran : ∀ t : Session Unit,
      step.run.run t = (step.result, t.showing (step.panics.countP Raise.bare))) :
    absorb id degrade step.run s = (.ofResult id degrade step.result, s) := by
  rw [absorb_apply, ran, Session.showing_of_quiet rfl]

theorem run_eq (step : StepTree ν) (s : Session Unit) :
    step.run.run s = (step.result, s.showing (step.panics.countP Raise.bare)) := by
  induction step generalizing s with
  | value v => simp [run, result, panics]
  | failure message => simp [run, result, panics]
  | panic payload => exact Action.run_panic payload s
  | guarded phase inner ih =>
      have guard := absorb_eq_of_run phase.degrade s ih
      have ran : (guarded phase inner).run.run s =
          (.ok (.ofFlow (absorb id phase.degrade inner.run s).1),
            (absorb id phase.degrade inner.run s).2) := rfl
      rw [ran, guard, result_guarded, panics, Raise.countP_bare_guarded, Session.showing_zero]
  | guardedThen phase inner next ihInner ihNext =>
      have guard := absorb_eq_of_run phase.degrade s ihInner
      have ran : (guardedThen phase inner next).run.run s =
          (do return .ofFlowThen (absorb id phase.degrade inner.run s).1 (← next.run) :
            Action Unit String (Yield ν)).run (absorb id phase.degrade inner.run s).2 := rfl
      rw [ran, guard, Action.run_map, ihNext, result_guardedThen, panics, List.countP_append,
        Raise.countP_bare_guarded, Nat.zero_add]

theorem absorb_eq (step : StepTree ν) (degrade : String → Outcome) (s : Session Unit) :
    absorb id degrade step.run s = (.ofResult id degrade step.result, s) :=
  absorb_eq_of_run degrade s step.run_eq

end StepTree

namespace Rehearsed

variable {ν : Type}

def upshot : Rehearsed ν → Upshot ν
  | .guarded phase step => .flow (.ofResult id phase.degrade step.result)
  | .outside step => .caught step.result

/-- Whether an entry runs a step outside of any boundary that ends with a panic. -/
def panicsOutside : Rehearsed ν → Bool
  | .guarded _ _ => false
  | .outside step => panicked step.result

theorem play_eq (entry : Rehearsed ν) (s : Session Unit) :
    entry.play s = (entry.upshot, s.showing (if entry.panicsOutside then 1 else 0)) := by
  cases entry with
  | guarded phase step =>
      have ran : (guarded phase step).play s = (.flow (absorb id phase.degrade step.run s).1,
        (absorb id phase.degrade step.run s).2) := rfl
      rw [ran, step.absorb_eq]
      simp [upshot, panicsOutside]
  | outside step =>
      have ran : (outside step).play s = (.caught (step.run.run s).1, (step.run.run s).2) := rfl
      rw [ran, step.run_eq, step.countP_bare_panics]
      rfl

/-- After each entry the panic handler has seen the panics of the outside entries so far. -/
theorem playAll_eq (entries : List (Rehearsed ν)) (s : Session Unit) :
    (∀ i, (playAll entries s).1[i]? = entries[i]?.map fun entry =>
      (entry.upshot, (s.showing ((entries.take (i + 1)).countP panicsOutside)).panicsSeen)) ∧
    (playAll entries s).2 = s.showing (entries.countP panicsOutside) := by
  induction entries generalizing s with
  | nil => exact ⟨fun _ => rfl, (Session.showing_zero s).symm⟩
  | cons entry rest ih =>
      obtain ⟨ihLog, ihSession⟩ := ih (entry.play s).2
      have played : playAll (entry :: rest) s =
          (((entry.play s).1, (entry.play s).2.panicsSeen) :: (playAll rest (entry.play s).2).1,
            (playAll rest (entry.play s).2).2) := by
        simp only [playAll, List.mapM_cons, Activity.bind_apply, Activity.pure_apply]
        rfl
      have shown (count : Nat) : (entry.play s).2.showing count =
          s.showing (count + if entry.panicsOutside then 1 else 0) := by
        rw [play_eq, Session.showing_showing, Nat.add_comm]
      rw [played]
      refine ⟨fun i => ?_, by rw [ihSession, shown, List.countP_cons]⟩
      cases i with
      | zero =>
          simp only [List.getElem?_cons_zero, Option.map_some, Nat.zero_add, List.take_succ_cons,
            List.take_zero, List.countP_singleton, play_eq]
      | succ i =>
          simp only [List.getElem?_cons_succ, ihLog, shown, List.take_succ_cons, List.countP_cons]

/-- Each guarded step, however deep, goes on with its value exactly if it has one and stops with
what its own phase degrades to otherwise, and its session is as quiet afterwards as it was before.
The panic handler sees each panic with no boundary around it once and no other, so that after all
entries it has seen as many as there are outside entries that ended with a panic. -/
theorem playAll_nests (entries : List (Rehearsed ν)) (s : Session Unit) :
    (∀ (step : StepTree ν) (degrade : String → Outcome) (t : Session Unit),
      (∀ yield, (absorb id degrade step.run t).1 = .proceed yield ↔ step.result = .ok yield) ∧
      (∀ outcome, (absorb id degrade step.run t).1 = .stop outcome ↔
        ∃ trouble, step.result = .error trouble ∧ outcome = degrade (trouble.detail id)) ∧
      (absorb id degrade step.run t).2 = t) ∧
    (∀ (step : StepTree ν) (t : Session Unit), step.run.run t =
      (step.result, { t with
        panicsSeen := t.panicsSeen + if t.quiet then 0 else step.panics.countP Raise.bare })) ∧
    (∀ i, (playAll entries s).1[i]? = entries[i]?.map fun entry => (entry.upshot,
      s.panicsSeen + if s.quiet then 0 else (entries.take (i + 1)).countP panicsOutside)) ∧
    (playAll entries s).2 = { s with
      panicsSeen := s.panicsSeen + if s.quiet then 0 else entries.countP panicsOutside } := by
  obtain ⟨log, session⟩ := playAll_eq entries s
  refine ⟨fun step degrade t => ?_, StepTree.run_eq, log, session⟩
  rw [step.absorb_eq]
  exact ⟨Flow.ofResult_eq_proceed_iff id degrade step.result,
    Flow.ofResult_eq_stop_iff id degrade step.result, rfl⟩

end Rehearsed

end SeccompBootstrap
