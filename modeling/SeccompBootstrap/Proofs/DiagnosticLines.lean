import SeccompBootstrap.Proofs.Bootstrap
import SeccompBootstrap.Proofs.Launch
import SeccompBootstrap.Proofs.Report
import SeccompBootstrap.Proofs.Text.Decimal

/-!
The lines that runs of a bootstrap leave on one stream. The line of an outcome is a record of it:
the first letters behind the common word tell the kind of the outcome, so the fixed words around
what it carries are known, and what stands between them is the variable or the detail itself,
whatever words it imitates. Each run leaves the line of its outcome and its line end. All text of a
load, a call or an argument is put on a single line before it gets into an outcome. The name of the
flag that turned a run off is not: a line feed inside of the runtime's label breaks the line of each
such run, and nothing else does.
-/

set_option autoImplicit false
set_option relaxedAutoImplicit false

namespace SeccompBootstrap

theorem Text.toString_nat_injective {m n : Nat} (same : toString m = toString n) : m = n := by
  have read : ofDigits? (toString m).toList = some n := by
    rw [same, ofDigits?_toString]
  rw [ofDigits?_toString] at read
  exact Option.some.inj read

theorem Text.toString_append_inj {m n : Nat} {back back' : String}
    (ends : ∀ c ∈ back.toList.head?, c.isDigit = false)
    (ends' : ∀ c ∈ back'.toList.head?, c.isDigit = false)
    (same : toString m ++ back = toString n ++ back') : m = n ∧ back = back' := by
  have digits (k : Nat) {rest : String} (ends : ∀ c ∈ rest.toList.head?, c.isDigit = false) :
      (toString k ++ rest).toList.takeWhile Char.isDigit = (toString k).toList := by
    have each : ∀ c ∈ (toString k).toList, c.isDigit = true := by
      intro c member
      cases digit : c.isDigit with
      | true => rfl
      | false => exact absurd member (not_mem_toString digit k)
    have none : rest.toList.takeWhile Char.isDigit = [] := by
      cases first : rest.toList with
      | nil => rfl
      | cons c more => simp [ends c (by simp [first])]
    rw [String.toList_append, List.takeWhile_append_of_pos each, none, List.append_nil]
  have numbers : toString m = toString n := by
    apply String.toList_injective
    rw [← digits m ends, same, digits n ends']
  refine ⟨toString_nat_injective numbers, ?_⟩
  rw [numbers] at same
  exact (String.append_right_inj _).mp same

namespace Outcome

/-- The ends that a run can have, without what they carry. -/
inductive Kind where
  | disabled
  | debugSkip
  | enforced
  | loadFailure
  | initFailure
  deriving DecidableEq

def kind : Outcome → Kind
  | .disabled _ => .disabled
  | .debugSkip _ => .debugSkip
  | .enforced _ => .enforced
  | .loadFailure _ => .loadFailure
  | .initFailure _ => .initFailure

def Kind.opening : Kind → String
  | .disabled => "seccomp: disabled via "
  | .debugSkip => "seccomp: debug-skip via "
  | .enforced => "seccomp: success (uid="
  | .loadFailure => "seccomp: load failure: "
  | .initFailure => "seccomp: init/enforcement failure: "

def remainder (p : Parameters) : String :=
  " gid=" ++ (toString p.gid.toNat ++
    (" network=" ++ (toString p.capabilities.enableNetwork ++ ")")))

def body : Outcome → String
  | .disabled var => var
  | .debugSkip var => var
  | .enforced p => toString p.uid.toNat ++ remainder p
  | .loadFailure detail => detail ++ unprotectedRemark
  | .initFailure detail => detail ++ unprotectedRemark

theorem line_eq (outcome : Outcome) : outcome.line = outcome.kind.opening ++ outcome.body := by
  cases outcome with
  | disabled var | debugSkip var =>
      unfold line kind Kind.opening body
      rfl
  | enforced p =>
      change "seccomp: success (uid=" ++ toString p.uid.toNat ++ " gid=" ++
        toString p.gid.toNat ++ " network=" ++ toString p.capabilities.enableNetwork ++ ")" =
        "seccomp: success (uid=" ++ (toString p.uid.toNat ++ remainder p)
      simp only [remainder, String.append_assoc]
  | loadFailure detail => exact String.append_assoc
  | initFailure detail => exact String.append_assoc

/-- How many characters of a line tell the kind of its outcome: the common word and two more. -/
def telling : Nat := 11

theorem Kind.eq_of_telling {k l : Kind}
    (same : k.opening.toList.take telling = l.opening.toList.take telling) : k = l := by
  revert same
  cases k <;> cases l <;> decide

theorem Kind.telling_le (k : Kind) : telling ≤ k.opening.toList.length := by
  cases k <;> decide

variable {first second : Outcome} {p q : Parameters}

theorem take_telling_line (outcome : Outcome) :
    outcome.line.toList.take telling = outcome.kind.opening.toList.take telling := by
  rw [line_eq, String.toList_append, List.take_append_of_le_length outcome.kind.telling_le]

theorem kind_eq_of_line_eq (same : first.line = second.line) : first.kind = second.kind := by
  apply Kind.eq_of_telling
  rw [← take_telling_line, ← take_telling_line, same]

theorem body_eq_of_line_eq (same : first.line = second.line) : first.body = second.body := by
  have opened := same
  rw [line_eq, line_eq, kind_eq_of_line_eq same] at opened
  exact (String.append_right_inj _).mp opened

theorem head?_remainder (p : Parameters) : (remainder p).toList.head? = some ' ' := by
  simp [remainder]

theorem toString_bool_injective {a b : Bool} (same : toString a = toString b) : a = b := by
  revert same
  cases a <;> cases b <;> decide

theorem parameters_eq_of_body_eq (same : (enforced p).body = (enforced q).body) : p = q := by
  have apart (p : Parameters) : ∀ c ∈ (remainder p).toList.head?, c.isDigit = false := by
    rw [head?_remainder]
    rintro _ ⟨⟩
    rfl
  obtain ⟨uids, rest⟩ := Text.toString_append_inj (apart p) (apart q) same
  have behindWord := (String.append_right_inj _).mp rest
  obtain ⟨gids, rest⟩ := Text.toString_append_inj (by simp) (by simp) behindWord
  have behindWord := (String.append_right_inj _).mp rest
  have networks := toString_bool_injective ((String.append_left_inj _).mp behindWord)
  obtain ⟨uid, gid, ⟨enableNetwork⟩⟩ := p
  obtain ⟨uid', gid', ⟨enableNetwork'⟩⟩ := q
  cases UInt32.toNat_inj.mp uids
  cases UInt32.toNat_inj.mp gids
  cases networks
  rfl

/-- Outcomes of one kind differ in what follows the opening words, if they differ. -/
theorem eq_of_kind_of_body (kinds : first.kind = second.kind) (bodies : first.body = second.body) :
    first = second := by
  cases first with
  | disabled var =>
      cases second <;> cases kinds
      exact congrArg disabled bodies
  | debugSkip var =>
      cases second <;> cases kinds
      exact congrArg debugSkip bodies
  | enforced p =>
      cases second <;> cases kinds
      exact congrArg enforced (parameters_eq_of_body_eq bodies)
  | loadFailure detail =>
      cases second <;> cases kinds
      exact congrArg loadFailure ((String.append_left_inj _).mp bodies)
  | initFailure detail =>
      cases second <;> cases kinds
      exact congrArg initFailure ((String.append_left_inj _).mp bodies)

/-- Outcomes with the same line are the same: the line tells the kind of the outcome and everything
that it carries. -/
theorem line_eq_line_iff (first second : Outcome) : first.line = second.line ↔ first = second := by
  constructor
  · intro same
    exact eq_of_kind_of_body (kind_eq_of_line_eq same) (body_eq_of_line_eq same)
  · rintro rfl
    rfl

end Outcome

def lineFeeds (s : String) : Nat :=
  s.toList.count '\n'

@[simp] theorem lineFeeds_append (s t : String) :
    lineFeeds (s ++ t) = lineFeeds s + lineFeeds t := by
  rw [lineFeeds, String.toList_append, List.count_append]
  rfl

@[simp] theorem lineFeeds_singleLine (s : String) : lineFeeds (Text.singleLine s) = 0 :=
  List.count_eq_zero.mpr (Text.lineFeed_not_mem_singleLine s)

@[simp] theorem lineFeeds_toString_nat (n : Nat) : lineFeeds (toString n) = 0 :=
  List.count_eq_zero.mpr (Text.not_mem_toString (by decide) n)

@[simp] theorem lineFeeds_toString_bool (b : Bool) : lineFeeds (toString b) = 0 := by
  cases b <;> decide

theorem lineFeeds_disableVar (label : String) :
    lineFeeds (disableVar label) = lineFeeds (normalizeLabel label) := by
  have words : lineFeeds "DISABLE_" = 0 ∧ lineFeeds "_SECCOMP" = 0 := by decide
  change lineFeeds ("DISABLE_" ++ normalizeLabel label ++ "_SECCOMP") = _
  rw [lineFeeds_append, lineFeeds_append, words.1, words.2, Nat.zero_add, Nat.add_zero]

theorem Config.normalizeLabel_runtime_build (settings : List Setting) :
    normalizeLabel (build settings).runtime = (build settings).runtime := by
  induction settings using List.reverseRecOn with
  | nil => decide
  | append_singleton earlier setting ih =>
      rw [build, List.foldl_append]
      cases setting with
      | runtime label => exact normalizeLabel_normalizeLabel label
      | libraryPath path => exact ih
      | entrySymbol symbol => exact ih

namespace Outcome

def carried : Outcome → String
  | .disabled var => var
  | .debugSkip var => var
  | .enforced _ => ""
  | .loadFailure detail => detail
  | .initFailure detail => detail

theorem lineFeeds_opening (kind : Kind) : lineFeeds kind.opening = 0 := by
  cases kind <;> decide

theorem lineFeeds_body (outcome : Outcome) :
    lineFeeds outcome.body = lineFeeds outcome.carried := by
  cases outcome with
  | disabled var | debugSkip var => rfl
  | enforced p =>
      have words : lineFeeds " gid=" = 0 ∧ lineFeeds " network=" = 0 ∧ lineFeeds ")" = 0 := by
        decide
      change lineFeeds (toString p.uid.toNat ++ remainder p) = 0
      simp only [remainder, lineFeeds_append, lineFeeds_toString_nat, lineFeeds_toString_bool,
        words]
  | loadFailure detail | initFailure detail =>
      have remark : lineFeeds unprotectedRemark = 0 := by decide
      change lineFeeds (detail ++ unprotectedRemark) = lineFeeds detail
      rw [lineFeeds_append, remark, Nat.add_zero]

theorem lineFeeds_line (outcome : Outcome) :
    lineFeeds outcome.line = lineFeeds outcome.carried := by
  rw [line_eq, lineFeeds_append, lineFeeds_opening, lineFeeds_body, Nat.zero_add]

end Outcome

namespace Bootstrap

variable {σ ε : Type} (bootstrap : Bootstrap σ ε) (env : Environment) (argv : List String)

theorem lineFeeds_of_attempted {outcome : Outcome} (attempted : Attempted outcome) :
    lineFeeds outcome.line = 0 := by
  rw [Outcome.lineFeeds_line]
  cases attempted with
  | loadFailure message => exact lineFeeds_singleLine message
  | initFailure message => exact lineFeeds_singleLine message
  | enforced p => rfl

/-- Only a run that its flag turned off can have line feeds in its line, those of the label. -/
theorem lineFeeds_settle (normal : normalizeLabel bootstrap.config.runtime =
    bootstrap.config.runtime) (s : Session σ) :
    lineFeeds (bootstrap.settle env argv s).1.line =
      if env.isTrue bootstrap.config.disableVar then lineFeeds bootstrap.config.runtime else 0 := by
  cases flag : env.isTrue bootstrap.config.disableVar with
  | true =>
      rw [settle_of_disabled bootstrap env argv flag, Outcome.lineFeeds_line, Outcome.carried,
        Config.disableVar, lineFeeds_disableVar, normal, if_pos rfl]
  | false =>
      rw [if_neg Bool.false_ne_true]
      cases skip : env.isTrue skipVar with
      | true =>
          rw [settle_of_skipped bootstrap env argv flag skip]
          exact (by decide : lineFeeds (Outcome.debugSkip skipVar).line = 0)
      | false =>
          have active := ActivationMode.resolve_eq_active_iff.mpr ⟨flag, skip⟩
          rw [settle_of_active bootstrap env argv active]
          exact lineFeeds_of_attempted (bootstrap.attempted_attempt argv _)

/-- Runs in order on one stream: their outcomes, and the stream after them. -/
def runAll : List (Environment × List String) → Stream → Activity σ (List Outcome × Stream)
  | [], stream => return ([], stream)
  | (env, argv) :: rest, stream => do
    let (outcome, stream) ← bootstrap.run env argv stream
    let (outcomes, stream) ← runAll rest stream
    return (outcome :: outcomes, stream)

theorem runAll_cons (rest : List (Environment × List String)) (stream : Stream) (s : Session σ) :
    let ran := bootstrap.run env argv stream s
    let later := bootstrap.runAll rest ran.1.2 ran.2
    bootstrap.runAll ((env, argv) :: rest) stream s =
      ((ran.1.1 :: later.1.1, later.1.2), later.2) := by
  simp only [runAll, Activity.bind_apply, Activity.pure_apply]

theorem runAll_stream (runs : List (Environment × List String)) (stream : Stream)
    (s : Session σ) :
    (bootstrap.runAll runs stream s).1.2 =
      (Outcome.reportAll (bootstrap.runAll runs stream s).1.1 stream).2 := by
  induction runs generalizing stream s with
  | nil => rfl
  | cons first rest ih =>
      obtain ⟨env, argv⟩ := first
      have ran : (bootstrap.run env argv stream s).1.2 =
          ((bootstrap.run env argv stream s).1.1.report stream).2 := by
        rw [run_eq]
      rw [runAll_cons, ih, Outcome.reportAll_snd, Outcome.reportAll_snd, List.foldl_cons, ran]

/-- The line feeds of a run's line are those of a label that turned the run off. -/
def LineOf (run : Environment × List String) (outcome : Outcome) : Prop :=
  lineFeeds outcome.line =
    if run.1.isTrue bootstrap.config.disableVar then lineFeeds bootstrap.config.runtime else 0

theorem forall₂_runAll (normal : normalizeLabel bootstrap.config.runtime =
    bootstrap.config.runtime) (runs : List (Environment × List String)) (stream : Stream)
    (s : Session σ) :
    List.Forall₂ bootstrap.LineOf runs (bootstrap.runAll runs stream s).1.1 := by
  induction runs generalizing stream s with
  | nil => exact .nil
  | cons first rest ih =>
      obtain ⟨env, argv⟩ := first
      have line : bootstrap.LineOf (env, argv) (bootstrap.run env argv stream s).1.1 := by
        rw [run_eq]
        exact bootstrap.lineFeeds_settle env argv normal s
      rw [runAll_cons]
      exact .cons line (ih _ _)

theorem lineFeeds_join {runs : List (Environment × List String)} {outcomes : List Outcome}
    (lines : List.Forall₂ bootstrap.LineOf runs outcomes) :
    lineFeeds (String.join (outcomes.map (·.line ++ "\n"))) =
      runs.length + runs.countP (·.1.isTrue bootstrap.config.disableVar) *
        lineFeeds bootstrap.config.runtime := by
  have lineEnd : lineFeeds "\n" = 1 := by decide
  induction lines with
  | nil => simp [lineFeeds]
  | @cons run outcome runs outcomes line _ ih =>
      rw [List.map_cons, String.join_cons, lineFeeds_append, lineFeeds_append, lineEnd, line, ih,
        List.length_cons, List.countP_cons, Nat.add_mul]
      split <;> omega

end Bootstrap

/-- Runs on a stream that accepts everything leave the lines of their outcomes in order, each with
one line end behind it. No text of a load, a call or an argument adds a line feed to these, and
neither does the flag of a runtime whose label has none. -/
theorem runAll_lines {σ ε : Type} (settings : List Config.Setting) (loader : Loader σ ε)
    (limits : StreamLimits) (lossless : limits.Lossless)
    (runs : List (Environment × List String)) (s : Session σ) :
    let config := Config.build settings
    let ran := (Bootstrap.mk config loader).runAll runs (.fresh limits) s
    let outcomes := ran.1.1
    let text := ran.1.2.text
    text = String.join (outcomes.map (·.line ++ "\n")) ∧
      List.Forall₂ (fun run outcome => lineFeeds outcome.line =
        if run.1.isTrue config.disableVar then lineFeeds config.runtime else 0) runs outcomes ∧
      lineFeeds text = runs.length +
        runs.countP (·.1.isTrue config.disableVar) * lineFeeds config.runtime := by
  intro config ran outcomes text
  let bootstrap : Bootstrap σ ε := Bootstrap.mk config loader
  have lines : List.Forall₂ bootstrap.LineOf runs outcomes :=
    bootstrap.forall₂_runAll (Config.normalizeLabel_runtime_build settings) runs _ s
  have accepted : ran.1.2.accepted = Outcome.written outcomes := by
    have reported := bootstrap.runAll_stream runs (.fresh limits) s
    have taken := (Outcome.reportAll_stream lossless.chunk outcomes).2
    exact (congrArg Stream.accepted reported).trans (taken.trans (lossless.admitted _))
  have joined : text = String.join (outcomes.map (·.line ++ "\n")) := by
    change Text.Utf8.decodeLossy ran.1.2.accepted = _
    rw [accepted, Outcome.written_eq_bytes, Text.Utf8.decodeLossy_bytes]
  refine ⟨joined, lines, ?_⟩
  rw [joined]
  exact bootstrap.lineFeeds_join lines

theorem runAll_lines_of_panicked_load :
    let settings : List Config.Setting := [.runtime " python-3 "]
    let script : Script :=
      { load := fun _ => .trouble (.panic (.text "no\nseccomp: success\n"))
        call := fun _ => .succeed }
    let limits : StreamLimits :=
      { failAt := none, interruptAt := some 5, zeroAt := none, chunk := some 3, flushFails := true
        fault := .brokenPipe }
    let runs : List (Environment × List String) :=
      [(⟨[("DISABLE_PYTHON_3_SECCOMP", "true")]⟩, []), (.empty, [])]
    let ran := (Bootstrap.mk (.build settings) script.loader).runAll runs (.fresh limits)
      (.start .empty)
    limits.Lossless ∧ lineFeeds ran.1.2.text = 2 ∧
      ran.1.1 = [.disabled "DISABLE_PYTHON_3_SECCOMP",
        .loadFailure "panicked: no seccomp: success"] := by
  intro settings script limits runs ran
  have lossless : limits.Lossless := ⟨rfl, rfl, by decide⟩
  obtain ⟨_, _, feeds⟩ := runAll_lines settings script.loader limits lossless runs (.start .empty)
  have label : lineFeeds (Config.build settings).runtime = 0 := by decide +kernel
  refine ⟨lossless, ?_, by decide +kernel⟩
  rw [feeds, label]
  rfl

/-- A line feed inside of a label gets into the line of the run that the label's flag turned off: a
single run leaves two lines. -/
theorem runAll_of_broken_label :
    let config := Config.build [.runtime "a\nb"]
    let runs : List (Environment × List String) := [(⟨[("DISABLE_A\nB_SECCOMP", "true")]⟩, [])]
    let ran := (Bootstrap.mk config Script.succeeding.loader).runAll runs (.fresh .unbounded)
      (.start .empty)
    ran.1.1 = [.disabled "DISABLE_A\nB_SECCOMP"] ∧
      ran.1.2.text = "seccomp: disabled via DISABLE_A\nB_SECCOMP\n" ∧
      lineFeeds ran.1.2.text = 2 ∧ runs.length = 1 := by
  decide +kernel

end SeccompBootstrap
