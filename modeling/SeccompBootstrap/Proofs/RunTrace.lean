import SeccompBootstrap.Proofs.SingleCall

/-!
The trace of a run. Between the mode that it resolves and the outcome that it reports stand the
events of its steps, in order and up to the step that did not succeed. A call is announced there
exactly if it is made, and the outcome is protected exactly then.
-/

set_option autoImplicit false
set_option relaxedAutoImplicit false

namespace SeccompBootstrap

variable {ρ ε : Type}

def Event.isCall : Event → Bool
  | .callingEntry _ _ _ _ => true
  | _ => false

def NativeCall.announcement (symbol : String) (call : NativeCall ε) : Event :=
  .callingEntry symbol call.uid call.gid call.enableNetwork

namespace Outcome

/-- The event of a stream that does not take the line of an outcome. -/
def complaint (outcome : Outcome) (stream : Stream) : List Event :=
  match (stream.writeLine outcome.line).1 with
  | .ok () => []
  | .error fault => [.streamUnavailable fault.message]

theorem isProtected_eq_isSome (outcome : Outcome) :
    outcome.isProtected = outcome.enforced?.isSome := by
  cases outcome <;> rfl

theorem report_events (outcome : Outcome) (stream : Stream) :
    (outcome.report stream).1 =
      .finished outcome.label outcome.isProtected :: outcome.complaint stream := by
  unfold report complaint
  rcases stream.writeLine outcome.line with ⟨fault | _, after⟩ <;> rfl

theorem length_complaint_le_one (outcome : Outcome) (stream : Stream) :
    (outcome.complaint stream).length ≤ 1 := by
  unfold complaint
  split <;> simp

theorem isCall_of_mem_complaint {outcome : Outcome} {stream : Stream} :
    ∀ event ∈ outcome.complaint stream, event.isCall = false := by
  unfold complaint
  split <;> simp [Event.isCall]

end Outcome

namespace NativeRun

/-- Whether events are those of the steps that a run takes in a process: in order, each one behind
the one before it and exactly under its own condition. -/
structure Tells (run : NativeRun ρ ε) (process : NativeWorld ρ ε) (steps : List Event) : Prop where
  inOrder : ∃ p, steps <+: run.stepEvents p
  loading : .loadingLibrary run.library.display ∈ steps ↔
    ActivationMode.resolve run.occasion.env run.config = .active
  resolved : .entryResolved run.symbol ∈ steps ↔
    ActivationMode.resolve run.occasion.env run.config = .active ∧
      ∃ entry, run.linker.entryAt process.linker.objects run.library run.symbol = .ok entry
  parsed : ∀ p, .parametersParsed p ∈ steps ↔ ∃ entry, run.Reaches process entry p
  calling : ∀ p, run.callingEvent p ∈ steps ↔
    (∃ entry, run.Reaches process entry p) ∧ process.latch.claimed = false

variable {run : NativeRun ρ ε} {process : NativeWorld ρ ε} {outcome : Outcome}
  {steps : List Event} {made : List (NativeCall ε)}

theorem callingEvent_inj {p q : Parameters} :
    run.callingEvent p = run.callingEvent q ↔ p = q := by
  obtain ⟨uid, gid, ⟨enableNetwork⟩⟩ := p
  obtain ⟨uid', gid', ⟨enableNetwork'⟩⟩ := q
  simp only [callingEvent, Event.callingEntry.injEq, Parameters.mk.injEq, Capabilities.mk.injEq,
    Int.natCast_inj, UInt32.toNat_inj, true_and]

theorem callingEvent_mem_stepEvents {p q : Parameters} :
    run.callingEvent q ∈ run.stepEvents p ↔ q = p := by
  constructor
  · intro member
    simp only [stepEvents, List.mem_cons, List.not_mem_nil, or_false] at member
    rcases member with loading | resolved | parsed | calling
    · cases loading
    · cases resolved
    · cases parsed
    · exact callingEvent_inj.mp calling
  · rintro rfl
    simp [stepEvents]

theorem Reaches.exists_iff {entry : ε} {p q : Parameters} (reaches : run.Reaches process entry p) :
    (∃ other, run.Reaches process other q) ↔ q = p := by
  constructor
  · rintro ⟨other, reaches'⟩
    exact (reaches'.unique reaches).2
  · rintro rfl
    exact ⟨entry, reaches⟩

theorem Course.tells (course : run.Course process outcome steps made) :
    run.Tells process steps := by
  cases course with
  -- a run that stops on the way reaches the latch with no parameters, so it tells of none
  | skipped inactive _ =>
      have unreached (entry : ε) (p : Parameters) : ¬ run.Reaches process entry p :=
        fun reaches => inactive reaches.active
      exact
        { inOrder := ⟨⟨0, 0, ⟨false⟩⟩, List.nil_prefix⟩
          loading := by simp [inactive]
          resolved := by simp [inactive]
          parsed := by simp [unreached]
          calling := by simp [unreached] }
  | unloaded _ active refused =>
      have unreached (entry : ε) (p : Parameters) : ¬ run.Reaches process entry p := by
        intro reaches
        simp [reaches.loads] at refused
      exact
        { inOrder := ⟨⟨0, 0, ⟨false⟩⟩, ⟨_, rfl⟩⟩
          loading := by simp [active]
          resolved := by simp [refused]
          parsed := by simp [unreached]
          calling := by simp [unreached, callingEvent] }
  | unread _ active loads unread =>
      have unreached (entry : ε) (p : Parameters) : ¬ run.Reaches process entry p := by
        intro reaches
        simp [reaches.parses] at unread
      exact
        { inOrder := ⟨⟨0, 0, ⟨false⟩⟩, ⟨_, rfl⟩⟩
          loading := by simp [active]
          resolved := by simp [active, loads]
          parsed := by simp [unreached]
          calling := by simp [unreached, callingEvent] }
  | @refused entry p reaches claimed =>
      exact
        { inOrder := ⟨p, ⟨_, rfl⟩⟩
          loading := by simp [reaches.active]
          resolved := by simp [reaches.active, reaches.loads]
          parsed := by simp [reaches.exists_iff]
          calling := by simp [claimed, callingEvent] }
  | @called entry p reaches unclaimed =>
      exact
        { inOrder := ⟨p, List.prefix_rfl⟩
          loading := by simp [stepEvents, reaches.active]
          resolved := by simp [stepEvents, reaches.active, reaches.loads]
          parsed := by simp [stepEvents, reaches.exists_iff, callingEvent]
          calling := by
            intro q
            rw [callingEvent_mem_stepEvents, reaches.exists_iff, and_iff_left unclaimed] }

theorem Course.filter_isCall (course : run.Course process outcome steps made) :
    steps.filter Event.isCall = made.map (NativeCall.announcement run.symbol) := by
  cases course <;> rfl

theorem Course.isProtected_iff (course : run.Course process outcome steps made) :
    outcome.isProtected = true ↔ steps.filter Event.isCall ≠ [] := by
  rw [course.filter_isCall, ne_eq, List.map_eq_nil_iff]
  cases course with
  | skipped _ unenforced => simp [Outcome.isProtected_eq_isSome, unenforced]
  | unloaded => simp [Outcome.isProtected]
  | unread => simp [Outcome.isProtected]
  | refused => simp [Outcome.isProtected]
  | called => simp [Outcome.isProtected]

/-- The events of a run that has some steps and comes to an outcome: the mode that it resolves, its
steps, the outcome with its protection, and what the stream makes of the outcome's line. -/
def emitted (run : NativeRun ρ ε) (steps : List Event) (outcome : Outcome) : List Event :=
  .modeResolved (ActivationMode.resolve run.occasion.env run.config) run.config.runtime ::
    (steps ++ .finished outcome.label outcome.isProtected ::
      outcome.complaint run.occasion.stream)

theorem filter_isCall_emitted (run : NativeRun ρ ε) (steps : List Event) (outcome : Outcome) :
    (run.emitted steps outcome).filter Event.isCall = steps.filter Event.isCall := by
  have silent : (outcome.complaint run.occasion.stream).filter Event.isCall = [] :=
    List.filter_eq_nil_iff.mpr fun event member => by
      simp [Outcome.isCall_of_mem_complaint event member]
  simp [emitted, Event.isCall, silent]

theorem run_of_takes {s after : Session (NativeWorld ρ ε)}
    (settled : run.bootstrap.settle run.occasion.env run.occasion.argv s = (outcome, after))
    (takes : run.Takes s outcome after steps made) :
    run.bootstrap.run run.occasion.env run.occasion.argv run.occasion.stream s =
      ((outcome, (outcome.report run.occasion.stream).2),
        { after with trace := s.trace ++ run.emitted steps outcome }) := by
  rw [Bootstrap.run_eq, settled, Outcome.report_events, takes.trace, Bootstrap.resolved,
    List.append_assoc, List.append_assoc]
  rfl

end NativeRun

/-- The trace of a run tells what happened in it. A run adds to the trace the mode that it resolves,
the events of its steps, the outcome that it returns with its protection, and at most one event more
if the stream does not take the outcome's line. The events that announce a call are those of the
native calls that the run makes, and its outcome is protected exactly if there is one. -/
theorem run_trace_tells (run : NativeRun ρ ε) (s : Session (NativeWorld ρ ε)) :
    let ran := run.bootstrap.run run.occasion.env run.occasion.argv run.occasion.stream s
    let outcome := ran.1.1
    ∃ steps made,
      ran.2.trace = s.trace ++ run.emitted steps outcome ∧
      ran.2.world.calls = s.world.calls ++ made ∧
      run.Tells s.world steps ∧
      (outcome.complaint run.occasion.stream).length ≤ 1 ∧
      (run.emitted steps outcome).filter Event.isCall =
        made.map (NativeCall.announcement run.symbol) ∧
      (outcome.isProtected = true ↔ ∃ event ∈ run.emitted steps outcome, event.isCall = true) := by
  obtain ⟨outcome, after, steps, made, settled, takes⟩ := run.takes_course s
  have announced := run.filter_isCall_emitted steps outcome
  rw [NativeRun.run_of_takes settled takes]
  refine ⟨steps, made, rfl, takes.calls, takes.course.tells, outcome.length_complaint_le_one _,
    announced.trans takes.course.filter_isCall, ?_⟩
  have called := takes.course.isProtected_iff
  rw [← announced, ne_eq, List.filter_eq_nil_iff] at called
  simpa using called

example :
    let run : NativeRun Unit Unit := .unhindered
    let start : Session (NativeWorld Unit Unit) := .start .fresh
    (run.bootstrap.run run.occasion.env run.occasion.argv run.occasion.stream start).2.trace =
      [.modeResolved .active "NODEJS", .loadingLibrary "./var/sandbox/sandbox-nodejs/nodejs.so",
        .entryResolved "DifySeccomp", .parametersParsed ⟨1000, 100, ⟨true⟩⟩,
        .callingEntry "DifySeccomp" 1000 100 true, .finished "success" true] := by
  decide +kernel

end SeccompBootstrap
