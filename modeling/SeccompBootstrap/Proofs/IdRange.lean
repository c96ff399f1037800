import SeccompBootstrap.Proofs.Launch
import SeccompBootstrap.Proofs.Parameters

/-!
The range of ids, which is checked on both sides of a launch: as a number before the arguments are
made, and as a text by the bootstrap that reads them. Both sides refuse the same ids, blame the same
one of two, and say so in the same words.
-/

set_option autoImplicit false
set_option relaxedAutoImplicit false

namespace SeccompBootstrap

/-- The id to blame, with its name: the first one, the user's before the group's, that a signed
integer of 32 bits does not hold. -/
inductive FirstUnfit (uid gid : UInt32) : String → UInt32 → Prop
  | uid (great : 2 ^ 31 ≤ uid.toNat) : FirstUnfit uid gid "uid" uid
  | gid (fits : uid.toNat < 2 ^ 31) (great : 2 ^ 31 ≤ gid.toNat) : FirstUnfit uid gid "gid" gid

theorem fitsInt32_iff {id : UInt32} : fitsInt32 id = true ↔ id.toNat < 2 ^ 31 := by
  have bound : greatestId + 1 = 2 ^ 31 := by decide
  rw [fitsInt32, decide_eq_true_eq]
  omega

theorem not_fitsInt32_iff {id : UInt32} : fitsInt32 id = false ↔ 2 ^ 31 ≤ id.toNat := by
  rw [← Bool.not_eq_true, fitsInt32_iff, Nat.not_lt]

section Pair

variable {uid gid : UInt32} {name : String} {value : UInt32}

theorem fit_or_firstUnfit (uid gid : UInt32) :
    (fitsInt32 uid = true ∧ fitsInt32 gid = true) ∨
      ∃ name value, FirstUnfit uid gid name value := by
  cases uidFits : fitsInt32 uid with
  | false => exact .inr ⟨"uid", uid, .uid (not_fitsInt32_iff.mp uidFits)⟩
  | true =>
      cases gidFits : fitsInt32 gid with
      | false =>
          exact .inr ⟨"gid", gid, .gid (fitsInt32_iff.mp uidFits) (not_fitsInt32_iff.mp gidFits)⟩
      | true => exact .inl ⟨rfl, rfl⟩

theorem not_firstUnfit (uidFits : fitsInt32 uid = true) (gidFits : fitsInt32 gid = true) :
    ¬ FirstUnfit uid gid name value := by
  intro unfit
  cases unfit with
  | uid great => exact absurd (fitsInt32_iff.mp uidFits) (Nat.not_lt.mpr great)
  | gid _ great => exact absurd (fitsInt32_iff.mp gidFits) (Nat.not_lt.mpr great)

theorem error_iff_firstUnfit {α ε : Type} {result : Except ε α} (blame : String → UInt32 → ε)
    (accepted : fitsInt32 uid = true → fitsInt32 gid = true → ∃ a, result = .ok a)
    (refused : ∀ {name value}, FirstUnfit uid gid name value →
      result = .error (blame name value)) (error : ε) :
    result = .error error ↔
      ∃ name value, FirstUnfit uid gid name value ∧ error = blame name value := by
  constructor
  · intro failed
    rcases fit_or_firstUnfit uid gid with ⟨uidFits, gidFits⟩ | ⟨name, value, unfit⟩
    · obtain ⟨a, succeeded⟩ := accepted uidFits gidFits
      cases failed.symm.trans succeeded
    · exact ⟨name, value, unfit, Except.error.inj (failed.symm.trans (refused unfit))⟩
  · rintro ⟨name, value, unfit, rfl⟩
    exact refused unfit

end Pair

namespace Parameters

variable {argv : List String} {position : Nat} {id : UInt32}

theorem idField_of_fits (name : String) (written : argv[position]? = some (toString id.toNat))
    (fits : id.toNat < 2 ^ 31) : IdField argv position name (.ok id) :=
  .valid written (Text.isNumeral_toString id.toNat) (Text.placeValue_toString id.toNat) fits

theorem idField_of_great (name : String) (written : argv[position]? = some (toString id.toNat))
    (great : 2 ^ 31 ≤ id.toNat) : IdField argv position name (.error (.outOfRange name id)) :=
  .outOfRange written (Text.isNumeral_toString id.toNat) (Text.placeValue_toString id.toNat) great

end Parameters

namespace Launch

variable {launch : Launch} {name : String} {value : UInt32}

/-- The vector in which a bootstrap without arguments of its own finds the ids and the capabilities
of a launch. -/
def spelled (launch : Launch) (program workload : String) : List String :=
  [program, workload, toString launch.uid.toNat, toString launch.gid.toNat,
    launch.capabilities.toJson]

theorem checkId_of_great {id : UInt32} (great : 2 ^ 31 ≤ id.toNat) :
    checkId name id = .error (.idOutOfRange name id) := by
  have unfit : ¬ fitsInt32 id = true := by
    rw [not_fitsInt32_iff.mpr great]
    exact Bool.false_ne_true
  rw [checkId, if_neg unfit]

theorem args_of_unfit (unfit : FirstUnfit launch.uid launch.gid name value) :
    launch.args = .error (.idOutOfRange name value) := by
  cases unfit with
  | uid great =>
      rw [args, checkId_of_great great]
      rfl
  | gid fits great =>
      rw [args, checkId_eq_ok_iff.mpr (fitsInt32_iff.mpr fits), checkId_of_great great]
      rfl

theorem ofArguments_spelled_of_fits (program workload : String)
    (uidFits : fitsInt32 launch.uid = true) (gidFits : fitsInt32 launch.gid = true) :
    Parameters.ofArguments (launch.spelled program workload) =
      .ok ⟨launch.uid, launch.gid, launch.capabilities⟩ :=
  Parameters.ofArguments_written ⟨launch.uid, launch.gid, launch.capabilities⟩ uidFits gidFits
    program workload []

theorem ofArguments_spelled_of_unfit (program workload : String)
    (unfit : FirstUnfit launch.uid launch.gid name value) :
    Parameters.ofArguments (launch.spelled program workload) =
      .error (.outOfRange name value) := by
  have uidWritten : (launch.spelled program workload)[2]? = some (toString launch.uid.toNat) := rfl
  have gidWritten : (launch.spelled program workload)[3]? = some (toString launch.gid.toNat) := rfl
  cases unfit with
  | uid great =>
      have first := Parameters.idField_of_great "uid" uidWritten great
      exact (Parameters.Reading.uid first).eq_ofArguments
  | gid fits great =>
      have first := Parameters.idField_of_fits "uid" uidWritten fits
      have second := Parameters.idField_of_great "gid" gidWritten great
      exact (Parameters.Reading.gid first second).eq_ofArguments

/-- A launch has arguments exactly if the bootstrap can read its ids and capabilities from their
written form. Otherwise both sides blame the first id that does not fit, in the same words. -/
theorem args_refused_iff_unread (launch : Launch) (program workload : String) :
    ((∃ args, launch.args = .ok args) ↔
      ∃ p, Parameters.ofArguments (launch.spelled program workload) = .ok p) ∧
    (∀ error, launch.args = .error error ↔
      ∃ name value, FirstUnfit launch.uid launch.gid name value ∧
        error = .idOutOfRange name value) ∧
    (∀ error, Parameters.ofArguments (launch.spelled program workload) = .error error ↔
      ∃ name value, FirstUnfit launch.uid launch.gid name value ∧
        error = .outOfRange name value) ∧
    ∀ name value, (LaunchError.idOutOfRange name value).message =
      (ParameterError.outOfRange name value).message := by
  have made : fitsInt32 launch.uid = true → fitsInt32 launch.gid = true →
      ∃ args, launch.args = .ok args := by
    intro uidFits gidFits
    exact ⟨_, args_eq_ok_iff.mpr ⟨uidFits, gidFits, rfl⟩⟩
  have read : fitsInt32 launch.uid = true → fitsInt32 launch.gid = true →
      ∃ p, Parameters.ofArguments (launch.spelled program workload) = .ok p := by
    intro uidFits gidFits
    exact ⟨_, ofArguments_spelled_of_fits program workload uidFits gidFits⟩
  refine ⟨?_, error_iff_firstUnfit _ made args_of_unfit,
    error_iff_firstUnfit _ read (ofArguments_spelled_of_unfit program workload), fun _ _ => rfl⟩
  rcases fit_or_firstUnfit launch.uid launch.gid with ⟨uidFits, gidFits⟩ | ⟨name, value, unfit⟩
  · exact ⟨fun _ => read uidFits gidFits, fun _ => made uidFits gidFits⟩
  · rw [args_of_unfit unfit, ofArguments_spelled_of_unfit program workload unfit]
    constructor
    · rintro ⟨args, given⟩
      cases given
    · rintro ⟨p, given⟩
      cases given

end Launch

end SeccompBootstrap
