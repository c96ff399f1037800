import SeccompBootstrap.Launch.Handoff
import SeccompBootstrap.Proofs.Environment
import SeccompBootstrap.Proofs.Text.Blank

/-!
What a launch hands to its child. Normalizing a runtime label changes nothing in one that is normal
already, and the flag of a runtime is no other variable that a launch sets. The arguments are there
exactly if both ids fit, and each flag of the child's environment has the value that the settings,
the host and the added variables give it.
-/

set_option autoImplicit false
set_option relaxedAutoImplicit false

namespace SeccompBootstrap

theorem toNat_toUpper (c : Char) :
    c.toUpper.toNat = if 97 ≤ c.toNat ∧ c.toNat ≤ 122 then c.toNat - 32 else c.toNat := by
  unfold Char.toUpper
  split
  · rename_i small
    have low : 97 ≤ c.toNat := small.1
    have high : c.toNat ≤ 122 := small.2
    rw [if_pos ⟨low, high⟩]
    change (c.val + ('A'.val - 'a'.val)).toNat = c.val.toNat - 32
    have value : c.val.toNat = c.toNat := rfl
    have step : ('A'.val - 'a'.val).toNat = 2 ^ 32 - 32 := by decide
    rw [UInt32.toNat_add, step]
    omega
  · rename_i other
    rw [if_neg (show ¬(97 ≤ c.toNat ∧ c.toNat ≤ 122) from other)]

theorem normalizeLabelChar_of_ne {c : Char} (letter : c ≠ '-') :
    normalizeLabelChar c = c.toUpper := by
  rw [normalizeLabelChar, if_neg letter]

theorem isBlank_normalizeLabelChar (c : Char) :
    Text.isBlank (normalizeLabelChar c) = Text.isBlank c := by
  by_cases dash : c = '-'
  · subst dash
    decide
  · rw [normalizeLabelChar_of_ne dash]
    unfold Text.isBlank
    rw [toNat_toUpper]
    split
    · rename_i small
      rw [Bool.eq_iff_iff]
      simp
      omega
    · rfl

theorem normalizeLabelChar_normalizeLabelChar (c : Char) :
    normalizeLabelChar (normalizeLabelChar c) = normalizeLabelChar c := by
  by_cases dash : c = '-'
  · subst dash
    decide
  · have upper := toNat_toUpper c
    -- no letter has a dash for its capital, so a second pass takes the same branch
    have letter : c.toUpper ≠ '-' := by
      intro same
      rw [same] at upper
      have code : ('-' : Char).toNat = 45 := by decide
      have other : c.toNat ≠ 45 := fun equal => dash (Char.toNat_inj.mp (equal.trans code.symm))
      split at upper <;> omega
    rw [normalizeLabelChar_of_ne dash, normalizeLabelChar_of_ne letter]
    apply Char.toNat_inj.mp
    have unchanged : ¬(97 ≤ c.toUpper.toNat ∧ c.toUpper.toNat ≤ 122) := by
      split at upper <;> omega
    rw [toNat_toUpper c.toUpper, if_neg unchanged]

@[simp] theorem normalizeLabel_normalizeLabel (label : String) :
    normalizeLabel (normalizeLabel label) = normalizeLabel label := by
  have kept : normalizeLabelChar ∘ normalizeLabelChar = normalizeLabelChar :=
    funext normalizeLabelChar_normalizeLabelChar
  unfold normalizeLabel
  rw [String.toList_ofList, Text.trimChars_map isBlank_normalizeLabelChar, Text.trimChars_trimChars,
    List.map_map, kept]

theorem not_mem_normalizeLabel {c : Char} (small : 97 ≤ c.toNat ∧ c.toNat ≤ 122) (label : String) :
    c ∉ (normalizeLabel label).toList := by
  intro member
  rw [normalizeLabel, String.toList_ofList] at member
  obtain ⟨d, -, rfl⟩ := List.mem_map.mp member
  by_cases dash : d = '-'
  · subst dash
    exact absurd small (by decide)
  · have upper := toNat_toUpper d
    rw [normalizeLabelChar_of_ne dash] at small
    split at upper <;> omega

theorem disableVar_congr {label other : String}
    (same : normalizeLabel label = normalizeLabel other) :
    disableVar label = disableVar other := by
  rw [disableVar, disableVar, same]

@[simp] theorem disableVar_normalizeLabel (label : String) :
    disableVar (normalizeLabel label) = disableVar label :=
  disableVar_congr (normalizeLabel_normalizeLabel label)

private theorem disableVar_ne_of_start {name : String} (label : String)
    (other : name.toList.take 2 ≠ ['D', 'I']) : disableVar label ≠ name := by
  intro same
  apply other
  rw [← same]
  simp [disableVar]

theorem disableVar_ne_skipVar (label : String) : disableVar label ≠ skipVar :=
  disableVar_ne_of_start label (by decide)

theorem disableVar_ne_debugSkipVar (label : String) : disableVar label ≠ debugSkipVar :=
  disableVar_ne_of_start label (by decide)

theorem disableVar_ne_allowedSyscallsVar (label : String) :
    disableVar label ≠ allowedSyscallsVar :=
  disableVar_ne_of_start label (by decide)

@[simp] theorem Argument.display_ofString (s : String) : (Argument.ofString s).display = s :=
  Text.Utf8.decodeLossy_bytes s

namespace Launch

variable {launch : Launch}

def positionalArgs (launch : Launch) : List String :=
  [toString launch.uid.toNat, toString launch.gid.toNat, launch.capabilities.toJson] ++
    launch.separatedArgs

theorem checkId_eq_ok_iff {name : String} {id : UInt32} :
    checkId name id = .ok () ↔ fitsInt32 id = true := by
  unfold checkId
  split <;> simp_all

theorem args_eq_ok_iff {args : List Argument} :
    launch.args = .ok args ↔
      fitsInt32 launch.uid = true ∧ fitsInt32 launch.gid = true ∧
        args = launch.bootstrapArgs.map Argument.ofString ++ Argument.ofPath launch.workload ::
          launch.positionalArgs.map Argument.ofString := by
  unfold Launch.args
  by_cases uidFits : fitsInt32 launch.uid = true
  · rw [checkId_eq_ok_iff.mpr uidFits]
    by_cases gidFits : fitsInt32 launch.gid = true
    · rw [checkId_eq_ok_iff.mpr gidFits]
      simp only [uidFits, gidFits, true_and]
      exact ⟨fun same => (Except.ok.inj same).symm, fun same => congrArg Except.ok same.symm⟩
    · simp [checkId, gidFits, bind, Except.bind]
  · simp [checkId, uidFits, bind, Except.bind]

/-- The value of a name in the child's environment: what was added by hand comes first, then what
the launch sets by itself. -/
theorem get?_childEnv (launch : Launch) (host : Environment) (name : String) :
    (Environment.mk (launch.childEnv host)).get? name =
      (Environment.get? ⟨launch.extraEnv⟩ name).or
        ((if launch.config.allowedSyscalls.isEmpty = false ∧ allowedSyscallsVar = name then
            some (syscallList launch.config.allowedSyscalls) else none).or
          ((if isSkipped host = true ∧ skipVar = name then some "true" else none).or
            (if launch.isDisabled host = true ∧ launch.disableVar = name then some "true"
              else none))) := by
  have list : (if launch.config.allowedSyscalls.isEmpty = true then []
        else [(allowedSyscallsVar, syscallList launch.config.allowedSyscalls)]) =
      if launch.config.allowedSyscalls.isEmpty = false then
        [(allowedSyscallsVar, syscallList launch.config.allowedSyscalls)] else [] := by
    cases launch.config.allowedSyscalls.isEmpty <;> rfl
  rw [childEnv, list, Environment.get?_append, Environment.get?_append, Environment.get?_append,
    Environment.get?_ite, Environment.get?_ite, Environment.get?_ite]

/-- Whether what was added to the environment leaves a name alone. -/
def LeavesAlone (launch : Launch) (name : String) : Prop :=
  ∀ assignment ∈ launch.extraEnv, assignment.1 ≠ name

theorem get?_disableVar_childEnv (alone : launch.LeavesAlone launch.disableVar)
    (host : Environment) :
    (Environment.mk (launch.childEnv host)).get? launch.disableVar =
      if launch.isDisabled host = true then some "true" else none := by
  have noSkip : skipVar ≠ launch.disableVar := (disableVar_ne_skipVar _).symm
  have noList : allowedSyscallsVar ≠ launch.disableVar := (disableVar_ne_allowedSyscallsVar _).symm
  rw [get?_childEnv, Environment.get?_eq_none alone]
  simp [noSkip, noList]

theorem get?_skipVar_childEnv (alone : launch.LeavesAlone skipVar) (host : Environment) :
    (Environment.mk (launch.childEnv host)).get? skipVar =
      if isSkipped host = true then some "true" else none := by
  have noDisable : launch.disableVar ≠ skipVar := disableVar_ne_skipVar _
  have noList : allowedSyscallsVar ≠ skipVar := by decide
  rw [get?_childEnv, Environment.get?_eq_none alone]
  simp [noDisable, noList]

end Launch

end SeccompBootstrap
