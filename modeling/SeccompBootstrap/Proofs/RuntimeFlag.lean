import Mathlib.Data.List.Forall2
import SeccompBootstrap.Proofs.Bootstrap
import SeccompBootstrap.Proofs.Launch

/-!
The flag of a runtime. Two labels name one flag exactly if they are the same but for white space at
their ends, the case of ASCII letters and `-` for `_`. A bootstrap and a launch derive one flag from
one label, so a flag that stands alone in an environment turns off the bootstraps of its own runtime
and no others, and skips none.
-/

set_option autoImplicit false
set_option relaxedAutoImplicit false

namespace SeccompBootstrap

variable {c d : Char} {label other : String}

def IsCapitalOf (capital small : Char) : Prop :=
  ('A'.toNat ≤ capital.toNat ∧ capital.toNat ≤ 'Z'.toNat) ∧ small.toNat = capital.toNat + 32

/-- Whether characters agree up to ASCII case and `-` for `_`. -/
inductive Alike : Char → Char → Prop
  | same (c : Char) : Alike c c
  | capital {c d : Char} (is : IsCapitalOf c d) : Alike c d
  | small {c d : Char} (is : IsCapitalOf d c) : Alike c d
  | dash : Alike '-' '_'
  | underscore : Alike '_' '-'

theorem toNat_normalizeLabelChar (c : Char) :
    (normalizeLabelChar c).toNat =
      if c.toNat = 45 then 95 else if 97 ≤ c.toNat ∧ c.toNat ≤ 122 then c.toNat - 32
        else c.toNat := by
  by_cases dash : c = '-'
  · subst dash
    decide
  · have letter : c.toNat ≠ 45 := fun code => dash (Char.toNat_inj.mp code)
    rw [normalizeLabelChar_of_ne dash, toNat_toUpper, if_neg letter]

theorem Alike.normalizeLabelChar_eq (alike : Alike c d) :
    normalizeLabelChar c = normalizeLabelChar d := by
  have first : 'A'.toNat = 65 := rfl
  have last : 'Z'.toNat = 90 := rfl
  have letters {c d : Char} (is : IsCapitalOf c d) :
      normalizeLabelChar c = normalizeLabelChar d := by
    obtain ⟨range, small⟩ := is
    rw [first, last] at range
    apply Char.toNat_inj.mp
    rw [toNat_normalizeLabelChar, toNat_normalizeLabelChar, small]
    split_ifs <;> omega
  cases alike with
  | same => rfl
  | capital is => exact letters is
  | small is => exact (letters is).symm
  | dash => decide
  | underscore => decide

theorem alike_of_normalizeLabelChar_eq (same : normalizeLabelChar c = normalizeLabelChar d) :
    Alike c d := by
  have first : 'A'.toNat = 65 := rfl
  have last : 'Z'.toNat = 90 := rfl
  have dash : '-'.toNat = 45 := rfl
  have underscore : '_'.toNat = 95 := rfl
  have codes := congrArg Char.toNat same
  rw [toNat_normalizeLabelChar, toNat_normalizeLabelChar] at codes
  by_cases equal : c.toNat = d.toNat
  · cases Char.toNat_inj.mp equal
    exact .same c
  · -- different characters with one code: one of them is a dash or a small letter
    have cases : c.toNat = 45 ∧ d.toNat = 95 ∨ c.toNat = 95 ∧ d.toNat = 45 ∨
        (97 ≤ c.toNat ∧ c.toNat ≤ 122) ∧ c.toNat = d.toNat + 32 ∨
        (97 ≤ d.toNat ∧ d.toNat ≤ 122) ∧ d.toNat = c.toNat + 32 := by
      split_ifs at codes <;> omega
    rcases cases with ⟨isDash, isUnderscore⟩ | ⟨isUnderscore, isDash⟩ | ⟨range, step⟩ |
      ⟨range, step⟩
    · cases Char.toNat_inj.mp (isDash.trans dash.symm)
      cases Char.toNat_inj.mp (isUnderscore.trans underscore.symm)
      exact .dash
    · cases Char.toNat_inj.mp (isDash.trans dash.symm)
      cases Char.toNat_inj.mp (isUnderscore.trans underscore.symm)
      exact .underscore
    · exact .small ⟨by rw [first, last]; omega, step⟩
    · exact .capital ⟨by rw [first, last]; omega, step⟩

theorem normalizeLabelChar_eq_iff : normalizeLabelChar c = normalizeLabelChar d ↔ Alike c d :=
  ⟨alike_of_normalizeLabelChar_eq, Alike.normalizeLabelChar_eq⟩

/-- Whether labels without the white space at their ends have the same length and agree character by
character. -/
def SameRuntime (label other : String) : Prop :=
  List.Forall₂ Alike (Text.trim label).toList (Text.trim other).toList

theorem normalizeLabel_eq_iff :
    normalizeLabel label = normalizeLabel other ↔ SameRuntime label other := by
  unfold normalizeLabel SameRuntime Text.trim
  rw [String.ofList_inj, String.toList_ofList, String.toList_ofList, ← List.forall₂_eq_eq_eq,
    List.forall₂_map_left_iff, List.forall₂_map_right_iff]
  simp only [normalizeLabelChar_eq_iff]

theorem disableVar_eq_iff : disableVar label = disableVar other ↔ SameRuntime label other := by
  rw [disableVar, disableVar, String.append_left_inj, String.append_right_inj,
    normalizeLabel_eq_iff]

namespace Config

def Setting.label? : Setting → Option String
  | .runtime label => some label
  | .libraryPath _ => none
  | .entrySymbol _ => none

def lastLabel (settings : List Setting) : String :=
  (settings.reverse.findSome? Setting.label?).getD "NODEJS"

theorem lastLabel_append_singleton (settings : List Setting) (setting : Setting) :
    lastLabel (settings ++ [setting]) = setting.label?.getD (lastLabel settings) := by
  rw [lastLabel, List.reverse_append, List.reverse_singleton, List.singleton_append,
    List.findSome?_cons]
  cases setting.label? <;> rfl

theorem disableVar_build (settings : List Setting) :
    (build settings).disableVar = SeccompBootstrap.disableVar (lastLabel settings) := by
  induction settings using List.reverseRecOn with
  | nil => rfl
  | append_singleton settings setting ih =>
      have built : build (settings ++ [setting]) = (build settings).set setting := by
        rw [build, List.foldl_append]
        rfl
      rw [built, lastLabel_append_singleton]
      cases setting with
      | runtime label => exact disableVar_normalizeLabel label
      | libraryPath | entrySymbol => exact ih

end Config

theorem Launch.flag_mem_childEnv {launch : Launch} {host : Environment}
    (disabled : launch.isDisabled host = true) :
    (launch.disableVar, "true") ∈ launch.childEnv host := by
  simp [childEnv, disabled]

/-- Whether an environment sets one flag and no other: neither that of any runtime nor that for
debugging. -/
structure OnlyFlag (env : Environment) (flag : String) : Prop where
  isTrue : env.isTrue flag = true
  noRuntime : ∀ label, disableVar label ≠ flag → env.isTrue (disableVar label) = false
  noSkip : flag ≠ skipVar → env.isTrue skipVar = false

theorem OnlyFlag.isTrue_disableVar_iff {env : Environment}
    (only : OnlyFlag env (disableVar label)) :
    env.isTrue (disableVar other) = true ↔ SameRuntime label other := by
  rw [← disableVar_eq_iff]
  constructor
  · intro flag
    by_contra different
    rw [only.noRuntime other (Ne.symm different)] at flag
    cases flag
  · intro same
    rw [← same]
    exact only.isTrue

theorem ActivationMode.resolve_ne_debugSkip {env : Environment} {config : Config}
    (unset : env.isTrue skipVar = false) : resolve env config ≠ .debugSkip := by
  unfold resolve
  split <;> simp [unset]

theorem OnlyFlag.resolve_eq_disabled_iff {env : Environment} {config : Config}
    (only : OnlyFlag env (disableVar label)) (serves : config.disableVar = disableVar other) :
    ActivationMode.resolve env config = .disabled ↔ SameRuntime label other := by
  rw [← only.isTrue_disableVar_iff, ← serves]
  constructor
  · intro disabled
    by_contra unset
    have active := ActivationMode.resolve_eq_active_iff.mpr
      ⟨Bool.eq_false_iff.mpr unset, only.noSkip (disableVar_ne_skipVar label)⟩
    rw [active] at disabled
    cases disabled
  · exact ActivationMode.resolve_of_disabled

namespace Bootstrap

variable {σ ε : Type} (bootstrap : Bootstrap σ ε) {env : Environment} (argv : List String)
  (s : Session σ)

theorem exists_settle_eq_disabled_iff :
    (∃ var, (bootstrap.settle env argv s).1 = .disabled var) ↔
      env.isTrue bootstrap.config.disableVar = true := by
  constructor
  · rintro ⟨var, disabled⟩
    by_contra unset
    exact bootstrap.settle_ne_disabled env argv (Bool.eq_false_iff.mpr unset) var s disabled
  · intro flag
    exact ⟨bootstrap.config.disableVar, by rw [settle_of_disabled bootstrap env argv flag]⟩

theorem settle_ne_debugSkip (unset : env.isTrue skipVar = false) (var : String) :
    (bootstrap.settle env argv s).1 ≠ .debugSkip var := by
  cases flag : env.isTrue bootstrap.config.disableVar with
  | true =>
      rw [settle_of_disabled bootstrap env argv flag]
      exact Outcome.noConfusion
  | false =>
      have active := ActivationMode.resolve_eq_active_iff.mpr ⟨flag, unset⟩
      rw [settle_of_active bootstrap env argv active]
      intro skipped
      have attempted := bootstrap.attempted_attempt argv (bootstrap.resolved env s)
      rw [skipped] at attempted
      cases attempted

end Bootstrap

/-- The flag of a label identifies the runtime and no other variable of a launch. A bootstrap has
the flag of the last label that its settings give, whatever spelling it has, and a launch for that
label sets the same flag. Where it is the only flag, the bootstraps of its own runtime are disabled,
those of other runtimes are not, and none is skipped. -/
theorem disableVar_identifies_runtime {σ ε : Type} :
    (∀ label other, disableVar label = disableVar other ↔ SameRuntime label other) ∧
    (∀ label, normalizeLabel (normalizeLabel label) = normalizeLabel label) ∧
    (∀ settings, (Config.build settings).disableVar = disableVar (Config.lastLabel settings) ∧
      ∀ launch : Launch, launch.config.runtime = Config.lastLabel settings →
        launch.disableVar = (Config.build settings).disableVar ∧
        ∀ host, launch.isDisabled host = true →
          ((Config.build settings).disableVar, "true") ∈ launch.childEnv host) ∧
    (∀ label, disableVar label ≠ skipVar ∧ disableVar label ≠ debugSkipVar ∧
      disableVar label ≠ allowedSyscallsVar) ∧
    ∀ env label settings, OnlyFlag env (disableVar label) →
      let mode := ActivationMode.resolve env (Config.build settings)
      (mode = .disabled ↔ SameRuntime label (Config.lastLabel settings)) ∧ mode ≠ .debugSkip ∧
      ∀ (loader : Loader σ ε) argv stream (s : Session σ),
        let outcome := ((Bootstrap.mk (Config.build settings) loader).run env argv stream s).1.1
        ((∃ var, outcome = .disabled var) ↔ SameRuntime label (Config.lastLabel settings)) ∧
          ∀ var, outcome ≠ .debugSkip var := by
  refine ⟨?_, ?_, ?_, ?_, ?_⟩
  · intro label other
    exact disableVar_eq_iff
  · exact normalizeLabel_normalizeLabel
  · intro settings
    have flag := Config.disableVar_build settings
    refine ⟨flag, ?_⟩
    intro launch label
    have same : launch.disableVar = (Config.build settings).disableVar := by
      rw [flag, ← label]
      rfl
    refine ⟨same, ?_⟩
    intro host disabled
    rw [← same]
    exact Launch.flag_mem_childEnv disabled
  · intro label
    exact ⟨disableVar_ne_skipVar label, disableVar_ne_debugSkipVar label,
      disableVar_ne_allowedSyscallsVar label⟩
  · intro env label settings only mode
    have serves := Config.disableVar_build settings
    have unset := only.noSkip (disableVar_ne_skipVar label)
    refine ⟨only.resolve_eq_disabled_iff serves, ActivationMode.resolve_ne_debugSkip unset, ?_⟩
    intro loader argv stream s outcome
    let bootstrap := Bootstrap.mk (Config.build settings) loader
    have settled : outcome = (bootstrap.settle env argv s).1 := by
      change (bootstrap.run env argv stream s).1.1 = _
      rw [Bootstrap.run_eq]
    rw [settled]
    constructor
    · rw [bootstrap.exists_settle_eq_disabled_iff, ← only.isTrue_disableVar_iff, ← serves]
    · intro var
      exact bootstrap.settle_ne_debugSkip argv s unset var

theorem disableVar_identifies_runtime_of_spelling :
    let env : Environment := ⟨[("DISABLE_PYTHON_3_SECCOMP", "true"), ("HOME", "true")]⟩
    let spelled : List Config.Setting := [.runtime "deno", .runtime " Python_3\n", .entrySymbol "f"]
    OnlyFlag env (disableVar "python-3") ∧ SameRuntime "python-3" " Python_3\n" ∧
      ActivationMode.resolve env (Config.build spelled) = .disabled ∧
      ActivationMode.resolve env (Config.build []) ≠ .disabled := by
  intro env spelled
  have name : disableVar "python-3" = "DISABLE_PYTHON_3_SECCOMP" := by decide +kernel
  have only : OnlyFlag env (disableVar "python-3") := by
    refine ⟨by decide +kernel, ?_, fun _ => by decide +kernel⟩
    intro label different
    rw [name] at different
    have home : "HOME" ≠ disableVar label := by
      intro same
      have start := congrArg (fun t => t.toList.head?) same
      simp [disableVar] at start
    have unset : env.get? (disableVar label) = none :=
      Environment.get?_eq_none (by simp [different.symm, home])
    rw [Environment.isTrue, unset]
    rfl
  obtain ⟨flags, -, -, -, alone⟩ := disableVar_identifies_runtime (σ := Unit) (ε := String)
  have related : SameRuntime "python-3" " Python_3\n" := (flags _ _).mp (by decide +kernel)
  have served := (alone env "python-3" spelled only).1
  have others := (alone env "python-3" [] only).1
  have unrelated : ¬ SameRuntime "python-3" "NODEJS" :=
    fun same => absurd ((flags _ _).mpr same) (by decide +kernel)
  exact ⟨only, related, served.mpr related, fun disabled => unrelated (others.mp disabled)⟩

end SeccompBootstrap
