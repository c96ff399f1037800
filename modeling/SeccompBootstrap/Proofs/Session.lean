import SeccompBootstrap.Session

/-!
How actions and activities run. Each way of building an action has one equation that gives its
result and the session after it, so that a run of a composed action unfolds by rewriting.
-/

set_option autoImplicit false
set_option relaxedAutoImplicit false

namespace SeccompBootstrap

variable {σ ε δ α β : Type}

namespace Activity

@[simp] theorem pure_apply {τ : Type} (value : α) (s : τ) :
    (pure value : StateM τ α) s = (value, s) := rfl

@[simp] theorem bind_apply {τ : Type} (step : StateM τ α) (next : α → StateM τ β) (s : τ) :
    (step >>= next) s = next (step s).1 (step s).2 := rfl

@[simp] theorem map_apply {τ : Type} (f : α → β) (step : StateM τ α) (s : τ) :
    (f <$> step) s = (f (step s).1, (step s).2) := rfl

@[simp] theorem emitAll_apply (events : List Event) (s : Session σ) :
    emitAll events s = ((), { s with trace := s.trace ++ events }) := rfl

@[simp] theorem emit_apply (event : Event) (s : Session σ) :
    emit event s = ((), { s with trace := s.trace ++ [event] }) := rfl

end Activity

namespace Action

theorem run_bind (step : Action σ ε α) (next : α → Action σ ε β) (s : Session σ) :
    (step >>= next).run s = match step.run s with
      | (.ok value, after) => (next value).run after
      | (.error trouble, after) => (.error trouble, after) := by
  unfold ExceptT.run
  simp only [bind, ExceptT.bind, ExceptT.mk, StateT.bind]
  rcases step s with ⟨_ | _, after⟩ <;> rfl

@[simp] theorem run_emit (event : Event) (s : Session σ) :
    (emit event : Action σ ε Unit).run s = (.ok (), { s with trace := s.trace ++ [event] }) := rfl

@[simp] theorem run_act (change : σ → α × σ) (s : Session σ) :
    (act change : Action σ ε α).run s =
      (.ok (change s.world).1, { s with world := (change s.world).2 }) := rfl

@[simp] theorem run_fail (error : ε) (s : Session σ) :
    (fail error : Action σ ε α).run s = (.error (.failure error), s) := rfl

theorem run_panic_of_quiet (payload : Payload) {s : Session σ} (quiet : s.quiet = true) :
    (panic payload : Action σ ε α).run s = (.error (.panic payload), s) := by
  have seen : (panic payload : Action σ ε α).run s = (.error (.panic payload),
      if s.quiet then s else { s with panicsSeen := s.panicsSeen + 1 }) := rfl
  rw [seen, if_pos quiet]

@[simp] theorem run_ofExcept_ok (value : α) (s : Session σ) :
    (ofExcept (.ok value) : Action σ ε α).run s = (.ok value, s) := rfl

@[simp] theorem run_ofExcept_error (error : ε) (s : Session σ) :
    (ofExcept (.error error) : Action σ ε α).run s = (.error (.failure error), s) := rfl

theorem run_mapError (f : ε → δ) (step : Action σ ε α) (s : Session σ) :
    (mapError f step).run s = match step.run s with
      | (.ok value, after) => (.ok value, after)
      | (.error trouble, after) => (.error (trouble.map f), after) := by
  have translated : (mapError f step).run s =
      ((step.run s).1.mapError (Trouble.map f), (step.run s).2) := rfl
  rw [translated]
  rcases step.run s with ⟨_ | _, after⟩ <;> rfl

/-- Whether a quiet session stays quiet during an action and none of its panics is seen. -/
def Silent (step : Action σ ε α) : Prop :=
  ∀ s : Session σ, s.quiet = true →
    (step.run s).2.quiet = true ∧ (step.run s).2.panicsSeen = s.panicsSeen

theorem silent_pure (value : α) : Silent (pure value : Action σ ε α) :=
  fun _ quiet => ⟨quiet, rfl⟩

theorem silent_emit (event : Event) : Silent (emit event : Action σ ε Unit) :=
  fun _ quiet => ⟨quiet, rfl⟩

theorem silent_act (change : σ → α × σ) : Silent (act change : Action σ ε α) :=
  fun _ quiet => ⟨quiet, rfl⟩

theorem silent_fail (error : ε) : Silent (fail error : Action σ ε α) :=
  fun _ quiet => ⟨quiet, rfl⟩

theorem silent_panic (payload : Payload) : Silent (panic payload : Action σ ε α) := by
  intro s quiet
  rw [run_panic_of_quiet payload quiet]
  exact ⟨quiet, rfl⟩

theorem silent_ofExcept (result : Except ε α) : Silent (ofExcept result : Action σ ε α) := by
  cases result with
  | ok value => exact silent_pure value
  | error error => exact silent_fail error

theorem silent_mapError (f : ε → δ) {step : Action σ ε α} (silent : Silent step) :
    Silent (mapError f step) := silent

theorem silent_bind {step : Action σ ε α} {next : α → Action σ ε β} (first : Silent step)
    (rest : ∀ value, Silent (next value)) : Silent (step >>= next) := by
  intro s quiet
  have kept := first s quiet
  rw [run_bind]
  rcases ran : step.run s with ⟨_ | value, after⟩ <;> rw [ran] at kept
  · exact kept
  · have later := rest value after kept.1
    exact ⟨later.1, later.2.trans kept.2⟩

end Action

theorem absorb_apply (describe : ε → String) (degrade : String → Outcome) (step : Action σ ε α)
    (s : Session σ) :
    absorb describe degrade step s =
      (.ofResult describe degrade (step.run { s with quiet := true }).1,
        { (step.run { s with quiet := true }).2 with quiet := s.quiet }) := rfl

end SeccompBootstrap
